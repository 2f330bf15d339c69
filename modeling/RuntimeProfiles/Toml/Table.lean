import RuntimeProfiles.Data

/-!
# TOML tables under construction

A document defines its tables piece by piece. `Entry` remembers how each of them came about, because
that decides how it may still be extended:

* a table with a header of its own is not opened again, and dotted keys do not reach into it;
* a table that merely lies on the way to another header may still get a header;
* a table made by dotted keys takes further dotted keys, but no header.

Values, inline tables among them, are never extended. A step that breaks a rule has no result.
-/

namespace RuntimeProfiles.Toml

/-- How a table came about. -/
inductive Origin where
  /-- By a header that names it. -/
  | header
  /-- On the way to a table with a header. -/
  | way
  /-- On the way of a dotted key. -/
  | dotted
deriving DecidableEq, Repr

/-- What stands under a key. -/
inductive Entry where
  | value (data : Data)
  | table (origin : Origin) (entries : List (String × Entry))
  /-- An array of tables, of which the last one is open. -/
  | tables (elements : List (List (String × Entry)))

/-- The entries of a table in the order of their first appearance. -/
abbrev Entries := List (String × Entry)

namespace Entries

/-- Puts an entry in the place of the one under the same key. -/
def replace (entries : Entries) (key : String) (entry : Entry) : Entries :=
  entries.map fun (k, old) => if k == key then (k, entry) else (k, old)

/-- Changes the last table of an array. -/
def changeLast (change : Entries → Option Entries) (elements : List Entries) :
    Option (List Entries) :=
  match elements.getLast? with
  | some last => (change last).map fun last => elements.dropLast ++ [last]
  | none => none

/-- Changes the table at a path of headers. Tables that are missing on the way are made. -/
def changeAt : (path : List String) → (change : Entries → Option Entries) → Entries → Option Entries
  | [], change, entries => change entries
  | key :: path, change, entries =>
    match entries.lookup key with
    | none => do
      let inner ← changeAt path change []
      return entries ++ [(key, .table .way inner)]
    | some (.table origin inner) => do
      let inner ← changeAt path change inner
      return entries.replace key (.table origin inner)
    | some (.tables elements) => do
      let elements ← changeLast (changeAt path change) elements
      return entries.replace key (.tables elements)
    | some (.value _) => none

/-- Puts a value under a dotted key: the path to its table, then its own name. -/
def put : (path : List String) → (name : String) → Data → Entries → Option Entries
  | [], name, data, entries =>
    if (entries.lookup name).isSome then none else some (entries ++ [(name, .value data)])
  | key :: path, name, data, entries =>
    match entries.lookup key with
    | none => do
      let inner ← put path name data []
      return entries ++ [(key, .table .dotted inner)]
    | some (.table .dotted inner) => do
      let inner ← put path name data inner
      return entries.replace key (.table .dotted inner)
    | some (.table .way inner) =>
      if path.isEmpty then none else do
        let inner ← put path name data inner
        return entries.replace key (.table .way inner)
    | some (.tables elements) =>
      if path.isEmpty then none else do
        let elements ← changeLast (put path name data) elements
        return entries.replace key (.tables elements)
    | some (.table .header _) | some (.value _) => none

/-- Opens the table that a header names. -/
def openTable (path : List String) (name : String) : Entries → Option Entries :=
  changeAt path fun entries =>
    match entries.lookup name with
    | none => some (entries ++ [(name, .table .header [])])
    | some (.table .way inner) => some (entries.replace name (.table .header inner))
    | some _ => none

/-- Opens another table of the array that a header names. -/
def openElement (path : List String) (name : String) : Entries → Option Entries :=
  changeAt path fun entries =>
    match entries.lookup name with
    | none => some (entries ++ [(name, .tables [[]])])
    | some (.tables elements) => some (entries.replace name (.tables (elements ++ [[]])))
    | some _ => none

end Entries

mutual

/-- The data of an entry. -/
def Entry.toData : Entry → Data
  | .value data => data
  | .table _ entries => .record (Entries.toFields entries) .closed
  | .tables elements => .list (Entries.toItems elements) .headed

/-- The fields of a finished table. -/
def Entries.toFields : List (String × Entry) → List (String × Data)
  | [] => []
  | (key, entry) :: entries => (key, entry.toData) :: Entries.toFields entries

/-- The items of a finished array of tables. -/
def Entries.toItems : List (List (String × Entry)) → List Data
  | [] => []
  | entries :: elements => .record (Entries.toFields entries) .closed :: Entries.toItems elements

end

end RuntimeProfiles.Toml

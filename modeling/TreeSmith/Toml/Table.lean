import TreeSmith.Toml.Scalar

/-!
# Tables in TOML

Values, and the tables of a document while it is read.  A table is opened once by a
header; keys with dots and headers of inner tables make the tables around them, and
what may be added to a table depends on how it was made.

## Main definitions

* `Toml.Value` — values.
* `Toml.Item`, `Toml.Entries` — tables under construction.
* `Toml.putDotted`, `Toml.openTable`, `Toml.openRow` — what a line of a document does.
* `Toml.Item.finish` — the finished value.
-/

namespace TreeSmith.Toml

/-- A value. -/
inductive Value
  /-- A text. -/
  | text (s : String)
  /-- A number, a truth value or a date. -/
  | scalar (s : Scalar)
  /-- A list. -/
  | array (items : List Value)
  /-- Values by keys. -/
  | table (entries : List (String × Value))
  deriving Inhabited

/-- How a table was made. -/
inductive Origin
  /-- By a header of its own. -/
  | header
  /-- By the header of an inner table. -/
  | implied
  /-- By a key with dots. -/
  | dotted
  deriving DecidableEq, Repr

/-- What stands under a key while a document is read. -/
inductive Item
  /-- A value. -/
  | value (v : Value)
  /-- A table that may still grow. -/
  | table (origin : Origin) (entries : List (String × Item))
  /-- A list of tables, the last of which may still grow. -/
  | rows (tables : List (List (String × Item)))

/-- The keys of a table under construction. -/
abbrev Entries := List (String × Item)

/-- What stands under a key. -/
def find? (key : String) (entries : Entries) : Option Item :=
  (entries.find? (·.1 == key)).map (·.2)

/-- The table with another item under a key that it has. -/
def replace (key : String) (item : Item) (entries : Entries) : Entries :=
  entries.map fun e => if e.1 == key then (key, item) else e

/-- The list with another last table. -/
def replaceLast (tables : List Entries) (last : Entries) : List Entries :=
  tables.dropLast ++ [last]

/-- Puts a value under a key with dots.  The key must be new; tables on the way are
made if need be, and the last one must have been made so too. -/
def putDotted (v : Value) : List String → Entries → Option Entries
  | [], _ => none
  | [key], entries =>
    match find? key entries with
    | none => some (entries ++ [(key, .value v)])
    | some _ => none
  | key :: more, entries =>
    match find? key entries with
    | none => (putDotted v more []).map fun sub => entries ++ [(key, .table .dotted sub)]
    | some (.table .dotted sub) =>
      (putDotted v more sub).map fun sub => replace key (.table .dotted sub) entries
    | some (.table .implied sub) =>
      if more.length = 1 then none
      else (putDotted v more sub).map fun sub => replace key (.table .implied sub) entries
    | some (.rows tables) =>
      if more.length = 1 then none
      else
        (putDotted v more (tables.getLastD [])).map fun sub =>
          replace key (.rows (replaceLast tables sub)) entries
    | some _ => none

/-- Changes the table that a header names, and makes the tables around it if need
be. -/
def changeTable (change : Entries → Option Entries) : List String → Entries → Option Entries
  | [], entries => change entries
  | key :: more, entries =>
    match find? key entries with
    | none => (changeTable change more []).map fun sub => entries ++ [(key, .table .implied sub)]
    | some (.table origin sub) =>
      (changeTable change more sub).map fun sub => replace key (.table origin sub) entries
    | some (.rows tables) =>
      (changeTable change more (tables.getLastD [])).map fun sub =>
        replace key (.rows (replaceLast tables sub)) entries
    | some (.value _) => none

/-- Opens a table under a key, which must be new or made by the header of an inner
table. -/
def openTable (key : String) (entries : Entries) : Option Entries :=
  match find? key entries with
  | none => some (entries ++ [(key, .table .header [])])
  | some (.table .implied sub) => some (replace key (.table .header sub) entries)
  | some _ => none

/-- Opens one more table of a list of tables. -/
def openRow (key : String) (entries : Entries) : Option Entries :=
  match find? key entries with
  | none => some (entries ++ [(key, .rows [[]])])
  | some (.rows tables) => some (replace key (.rows (tables ++ [[]])) entries)
  | some _ => none

mutual

/-- The finished value of an item. -/
def Item.finish : Item → Value
  | .value v => v
  | .table _ entries => .table (finishEntries entries)
  | .rows tables => .array (finishRows tables)

/-- The finished values of a table. -/
def finishEntries : List (String × Item) → List (String × Value)
  | [] => []
  | (key, item) :: more => (key, item.finish) :: finishEntries more

/-- The finished tables of a list. -/
def finishRows : List (List (String × Item)) → List Value
  | [] => []
  | entries :: more => .table (finishEntries entries) :: finishRows more

end

end TreeSmith.Toml

import ClassApi.Fields

/-!
# TOML

The values of TOML, and how a document is put together. A table can be opened once, by a header;
before that it may have come into being on the way to another table. Tables made by dotted keys are
only added to by dotted keys, and values, inline tables among them, are closed.
-/

namespace ClassApi

/-- A TOML value. -/
inductive Toml where
  /-- A text. -/
  | string (value : String)
  /-- An integer. -/
  | integer (value : Int)
  /-- A float. -/
  | float (value : Float)
  /-- A truth value. -/
  | bool (value : Bool)
  /-- A date, a time, or both, as text. -/
  | time (text : String)
  /-- A list. -/
  | array (items : List Toml)
  /-- Named values. -/
  | table (members : List (String × Toml))
deriving Inhabited

namespace Toml

/-- How a table came into being. -/
inductive TableKind where
  /-- On the way to another table. -/
  | implied
  /-- By a header. -/
  | declared
  /-- By a dotted key. -/
  | dotted
deriving DecidableEq, Repr

/-- What a name stands for while a document is read. -/
inductive Entry where
  /-- A value. -/
  | value (value : Toml)
  /-- A table. -/
  | table (kind : TableKind) (members : List (String × Entry))
  /-- A list of tables, of which the last one can be added to. -/
  | tables (items : List (List (String × Entry)))

namespace Entry

mutual

/-- The value of an entry. -/
def close : Entry → Toml
  | value v => v
  | table _ members => .table (closeMembers members)
  | tables items => .array (closeItems items)

/-- The values of members. -/
def closeMembers : List (String × Entry) → List (String × Toml)
  | [] => []
  | (name, entry) :: rest => (name, close entry) :: closeMembers rest

/-- The values of tables. -/
def closeItems : List (List (String × Entry)) → List Toml
  | [] => []
  | members :: rest => .table (closeMembers members) :: closeItems rest

end

end Entry

/-- Changes the last item of a list of tables. -/
def changeLast (f : Fields Entry → Option (Fields Entry)) (items : List (Fields Entry)) :
    Option (List (Fields Entry)) :=
  match items.getLast? with
  | some last => (f last).map fun last => items.dropLast ++ [last]
  | none => none

/-- Changes the table that a path leads to; tables that are missing on the way come into being. -/
def inside (f : Fields Entry → Option (Fields Entry)) :
    List String → Fields Entry → Option (Fields Entry)
  | [], members => f members
  | key :: path, members =>
    match Fields.get? members key with
    | none => (inside f path []).map fun inner => Fields.insert members key (.table .implied inner)
    | some (.table kind inner) =>
      (inside f path inner).map fun inner => Fields.insert members key (.table kind inner)
    | some (.tables items) =>
      (changeLast (inside f path) items).map fun items => Fields.insert members key (.tables items)
    | some (.value _) => none

/-- Opens a table by its header. -/
def declare (key : String) (members : Fields Entry) : Option (Fields Entry) :=
  match Fields.get? members key with
  | none => some (Fields.insert members key (.table .declared []))
  | some (.table .implied inner) => some (Fields.insert members key (.table .declared inner))
  | some _ => none

/-- Adds a table to a list of tables by its header. -/
def append (key : String) (members : Fields Entry) : Option (Fields Entry) :=
  match Fields.get? members key with
  | none => some (Fields.insert members key (.tables [[]]))
  | some (.tables items) => some (Fields.insert members key (.tables (items ++ [[]])))
  | some _ => none

/-- Writes a value under a dotted key. A name is written once, and the table that holds it is one
made by dotted keys, unless the key is a single name. -/
def assign (value : Toml) : List String → Fields Entry → Option (Fields Entry)
  | [], _ => none
  | [key], members =>
    if Fields.contains members key then none
    else some (Fields.insert members key (.value value))
  | key :: next :: path, members =>
    match Fields.get? members key with
    | none =>
      (assign value (next :: path) []).map fun inner =>
        Fields.insert members key (.table .dotted inner)
    | some (.table .dotted inner) =>
      (assign value (next :: path) inner).map fun inner =>
        Fields.insert members key (.table .dotted inner)
    | some (.table .implied inner) =>
      if path.isEmpty then none
      else
        (assign value (next :: path) inner).map fun inner =>
          Fields.insert members key (.table .implied inner)
    | some (.tables items) =>
      if path.isEmpty then none
      else
        (changeLast (assign value (next :: path)) items).map fun items =>
          Fields.insert members key (.tables items)
    | some _ => none

end Toml

end ClassApi

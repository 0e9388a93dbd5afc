/-!
# Ordered fields

Documents, JSON objects, GraphQL objects and registries of types all keep their members in the order
in which they were first written. They are association lists without repeated names: writing to a
name that is present changes its value in place, writing to a new name appends. Lookups find the
first member, so every law about them is an induction over the list.
-/

namespace ClassApi

/-- Named members in order. -/
abbrev Fields (α : Type) := List (String × α)

namespace Fields

variable {α β : Type}

/-- The value of the first member called `name`. -/
def get? (fields : Fields α) (name : String) : Option α :=
  match fields with
  | [] => none
  | (key, value) :: rest => if key = name then some value else get? rest name

/-- Whether some member is called `name`. -/
def contains (fields : Fields α) (name : String) : Bool :=
  (get? fields name).isSome

/-- Writes a member: in place when the name is present, else at the end. -/
def insert (fields : Fields α) (name : String) (value : α) : Fields α :=
  match fields with
  | [] => [(name, value)]
  | (key, old) :: rest =>
    if key = name then (key, value) :: rest else (key, old) :: insert rest name value

/-- Drops the member called `name`; the others keep their order. -/
def remove (fields : Fields α) (name : String) : Fields α :=
  match fields with
  | [] => []
  | (key, value) :: rest => if key = name then rest else (key, value) :: remove rest name

/-- The names in order. -/
def names (fields : Fields α) : List String :=
  fields.map Prod.fst

/-- Writes every entry in turn: a repeated name keeps its first place and its last value. -/
def ofEntries (entries : List (String × α)) : Fields α :=
  entries.foldl (fun fields entry => insert fields entry.1 entry.2) []

/-- Adds the members whose names are not taken yet, in order. -/
def addMissing (fields : Fields α) (entries : List (String × α)) : Fields α :=
  entries.foldl
    (fun fields entry =>
      if contains fields entry.1 then fields else insert fields entry.1 entry.2) fields

/-- Maps the values and keeps names and order. -/
def mapValues (f : α → β) (fields : Fields α) : Fields β :=
  fields.map fun entry => (entry.1, f entry.2)

/-- The first name that occurs a second time. -/
def firstRepeated (names : List String) : Option String :=
  go [] names
where
  /-- Looks for a name that is among those already `seen`. -/
  go (seen : List String) : List String → Option String
    | [] => none
    | name :: rest => if seen.contains name then some name else go (name :: seen) rest

end Fields

end ClassApi

import ClassApi.Ident
import ClassApi.Json.Basic
import ClassApi.Number.Reading
import ClassApi.Text.Letter
import ClassApi.Toml.Basic

/-!
# Layers of settings

Settings come in layers: files, and after them variables of the environment. A layer gives values to
keys; what it says about a table is merged into what earlier layers have said, and any other value
takes the place of the earlier one.
-/

namespace ClassApi

/-- A value that a layer gives. All but tables know where they come from. -/
inductive Setting where
  /-- No value. -/
  | null (origin : String)
  /-- A truth value. -/
  | bool (value : Bool) (origin : String)
  /-- An integer. -/
  | integer (value : Int) (origin : String)
  /-- A float. -/
  | float (value : Float) (origin : String)
  /-- A text. -/
  | text (value : String) (origin : String)
  /-- A list. -/
  | list (items : List Setting) (origin : String)
  /-- Named values. -/
  | table (members : List (String × Setting))
deriving Inhabited

namespace Setting

/-- A number; one that does not fit into an integer is a float. -/
def ofNumeral (origin : String) (n : Numeral) : Setting :=
  match n.toInt? with
  | some i => integer i origin
  | none => float n.toFloat origin

mutual

/-- The setting that a JSON value gives. -/
def ofJson (origin : String) : Json → Setting
  | .null => null origin
  | .bool b => bool b origin
  | .number n => ofNumeral origin n
  | .string s => text s origin
  | .array items => list (ofJsonItems origin items) origin
  | .object members => table (ofJsonMembers origin members)

/-- The settings that JSON values give. -/
def ofJsonItems (origin : String) : List Json → List Setting
  | [] => []
  | item :: rest => ofJson origin item :: ofJsonItems origin rest

/-- The settings that members of a JSON object give. -/
def ofJsonMembers (origin : String) : List (String × Json) → List (String × Setting)
  | [] => []
  | (name, value) :: rest => (name, ofJson origin value) :: ofJsonMembers origin rest

end

mutual

/-- The setting that a TOML value gives; times are texts. -/
def ofToml (origin : String) : Toml → Setting
  | .string s => text s origin
  | .integer n => integer n origin
  | .float x => float x origin
  | .bool b => bool b origin
  | .time s => text s origin
  | .array items => list (ofTomlItems origin items) origin
  | .table members => table (ofTomlMembers origin members)

/-- The settings that TOML values give. -/
def ofTomlItems (origin : String) : List Toml → List Setting
  | [] => []
  | item :: rest => ofToml origin item :: ofTomlItems origin rest

/-- The settings that members of a TOML table give. -/
def ofTomlMembers (origin : String) : List (String × Toml) → List (String × Setting)
  | [] => []
  | (name, value) :: rest => (name, ofToml origin value) :: ofTomlMembers origin rest

end

/-- The members of the table under a name. -/
def tableAt (members : Fields Setting) (name : String) : Fields Setting :=
  match Fields.get? members name with
  | some (table inner) => inner
  | _ => []

mutual

/-- Writes a value under a name. A table is merged into the one that is there, and one without
members takes no place. -/
def put (members : Fields Setting) (name : String) : Setting → Fields Setting
  | table [] =>
    if Fields.contains members name then members
    else Fields.insert members name (table [])
  | table (entry :: incoming) =>
    Fields.insert members name (table (putAll (tableAt members name) (entry :: incoming)))
  | value => Fields.insert members name value

/-- Writes values one after the other under their names. -/
def putAll (members : Fields Setting) : List (String × Setting) → Fields Setting
  | [] => members
  | (name, value) :: rest => putAll (put members name value) rest

end

/-- Writes a value under the path of names that leads to it; whatever stands in the way of a table
is replaced. -/
def putAt (value : Setting) : List String → Fields Setting → Fields Setting
  | [], members => members
  | [name], members => put members name value
  | name :: rest, members =>
    Fields.insert members name (table (putAt value rest (tableAt members name)))

/-- Whether a character may stand in a name of a dotted key. -/
def isKeyChar (c : Char) : Bool :=
  c.isAlphanum || c == ' ' || c == '_' || c == '-'

/-- The names that a key is made of: those between its dots, or the whole key when they are no
names. -/
def keyPath (key : String) : List String :=
  let names := key.splitOn "."
  if names.all fun name => !name.isEmpty && name.toList.all isKeyChar then names else [key]

/-- Adds a layer to what earlier layers have said. -/
def addLayer (members : Fields Setting) (layer : List (String × Setting)) : Fields Setting :=
  layer.foldl (fun members entry => putAt entry.2 (keyPath entry.1) members) members

/-- Where the values of variables come from. -/
def environmentOrigin : String :=
  "the environment"

/-- The setting that the text of a variable gives. -/
def ofVariable (value : String) : Setting :=
  let lower := lowerText value
  if lower = "true" then bool true environmentOrigin
  else if lower = "false" then bool false environmentOrigin
  else
    match Cursor.readInt (-9223372036854775808) 9223372036854775807 value.toList with
    | some n => integer n environmentOrigin
    | none =>
      match FloatText.read value with
      | some x => float x environmentOrigin
      | none => text value environmentOrigin

/-- What the names of variables that give settings begin with, in any letter case. -/
def variablePrefix : String :=
  "familiar_graphql__"

/-- The key that a variable stands for: two underscores divide names. -/
def variableKey? (name : String) : Option String :=
  let lower := (lowerText name).toList
  let stem := variablePrefix.toList
  if stem.isPrefixOf lower then
    some (".".intercalate ((String.ofList (lower.drop stem.length)).splitOn "__"))
  else none

/-- The layer that variables make. -/
def environmentLayer (environment : List (String × String)) : List (String × Setting) :=
  environment.filterMap fun (name, value) => (variableKey? name).map fun key =>
    (key, ofVariable value)

end Setting

end ClassApi

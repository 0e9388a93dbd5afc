import ClassApi.Codec.Sha256
import ClassApi.Json.Writer

/-!
# Projects

A project owns the class definitions that its schema is compiled from, and a version that is stamped
on everything written through that schema. The schema hash tells when a compiled schema is out of
date: it is given with the project, or else computed from the definitions.
-/

namespace ClassApi

/-- The classes of a project. -/
structure ProjectClasses where
  /-- The version stamped on every record that is written. -/
  version : Int
  /-- The class definitions, unread. -/
  definitions : Json

/-- A project. -/
structure Project where
  /-- The id. -/
  id : String
  /-- The name. -/
  name : String
  /-- A shorter name. -/
  shortName : Option String
  /-- A name that no other project has. -/
  uniqueName : Option String
  /-- The schema hash, when it is given. -/
  hash : Option String
  /-- The classes. -/
  classes : Option ProjectClasses

/-- The members of a record in JSON: named, or given by position with the last ones left out. -/
def Json.recordMembers? (names : List String) : Json → Option (Fields Json)
  | .object members => some members
  | .array items => if items.length ≤ names.length then some (names.zip items) else none
  | _ => none

/-- A text that may be missing or `null`; anything else is malformed. -/
def Json.optionalText? : Option Json → Option (Option String)
  | none => some none
  | some .null => some none
  | some (.string s) => some (some s)
  | some _ => none

namespace ProjectClasses

/-- The version among the members, zero when it is missing. -/
def versionOf (members : Fields Json) : Option Int :=
  match Fields.get? members "version" with
  | none => some 0
  | some version => version.asInt?

/-- Reads the classes of a project. -/
def ofJson (json : Json) : Option ProjectClasses := do
  let members ← json.recordMembers? ["version", "definitions"]
  let version ← versionOf members
  return { version, definitions := (Fields.get? members "definitions").getD .null }

/-- The JSON of the classes. -/
def toJson (classes : ProjectClasses) : Json :=
  .object [("version", .int classes.version), ("definitions", classes.definitions)]

end ProjectClasses

namespace Project

/-- The names of the members, in order. -/
def memberNames : List String :=
  ["_id", "name", "shortName", "uniqueName", "hash", "classes"]

/-- The classes among the members; missing and `null` mean none. -/
def classesOf (members : Fields Json) : Option (Option ProjectClasses) :=
  match Fields.get? members "classes" with
  | none => some none
  | some .null => some none
  | some json => (ProjectClasses.ofJson json).map some

/-- Reads a project; members with other names are ignored. -/
def ofJson (json : Json) : Option Project := do
  let members ← json.recordMembers? memberNames
  let id ← (Fields.get? members "_id").bind Json.asString?
  let name ← (Fields.get? members "name").bind Json.asString?
  let shortName ← Json.optionalText? (Fields.get? members "shortName")
  let uniqueName ← Json.optionalText? (Fields.get? members "uniqueName")
  let hash ← Json.optionalText? (Fields.get? members "hash")
  let classes ← classesOf members
  return { id, name, shortName, uniqueName, hash, classes }

/-- A member of a JSON object that is left out when it has no value. -/
def optionalMember (name : String) : Option Json → List (String × Json)
  | some value => [(name, value)]
  | none => []

/-- The JSON of a project; members without a value are left out. -/
def toJson (p : Project) : Json :=
  .object <|
    [("_id", .string p.id), ("name", .string p.name)]
      ++ optionalMember "shortName" (p.shortName.map .string)
      ++ optionalMember "uniqueName" (p.uniqueName.map .string)
      ++ optionalMember "hash" (p.hash.map .string)
      ++ optionalMember "classes" (p.classes.map ProjectClasses.toJson)

/-- The class definitions, `null` when there are none. -/
def definitions (p : Project) : Json :=
  match p.classes with
  | some classes => classes.definitions
  | none => .null

/-- The version of the classes. -/
def version (p : Project) : Int :=
  match p.classes with
  | some classes => classes.version
  | none => 0

/-- The hash that tells whether a compiled schema is up to date. -/
def schemaHash (p : Project) : String :=
  match p.hash with
  | some hash => hash
  | none => Sha256.ofText p.definitions.compact

end Project

end ClassApi

import ClassApi.Store.Basic

/-!
# Fixtures

A fixture is a JSON object with files and with the records of classes, in extended JSON. It is
loaded piece by piece; what was loaded before a malformed piece stays loaded.
-/

namespace ClassApi.Store

/-- The id that a text of a fixture stands for. -/
def fixtureId (text : String) : Except StoreError ObjectId :=
  match ObjectId.ofHex? text with
  | some id => .ok id
  | none => .error .invalidFixture

/-- Loads one file. A file without an id is given one, even when it then turns out to have no
name. -/
def seedFile (s : Store) (json : Json) : Option StoreError × Store :=
  let (id, s) : Except StoreError ObjectId × Store :=
    match (json.member? "_id").bind Json.asString? with
    | some text => (fixtureId text, s)
    | none =>
      let (id, s) := s.drawId
      (.ok id, s)
  match id with
  | .error e => (some e, s)
  | .ok id =>
    match (json.member? "filename").bind Json.asString? with
    | none => (some .fileWithoutName, s)
    | some filename =>
      (none, s.insertFile {
        id, filename
        contentType := (json.member? "contentType").bind Json.asString?
        length := ((json.member? "length").bind Json.asInt?).getD 0
        createdAt := s.clock
        updatedAt := s.clock })

/-- Loads files in order, up to the first malformed one. -/
def seedFiles (s : Store) : List Json → Option StoreError × Store
  | [] => (none, s)
  | json :: rest =>
    match s.seedFile json with
    | (some e, s) => (some e, s)
    | (none, s) => seedFiles s rest

/-- The document of a fixture's record; a textual id is decoded. -/
def fixtureDocument (className : String) (json : Json) : Except StoreError Document :=
  match Extended.ofJson json with
  | none => .error .invalidFixture
  | some (.document doc) =>
    match Fields.get? doc "_id" with
    | some (.string text) => (fixtureId text).map fun id => Fields.insert doc "_id" (.objectId id)
    | _ => .ok doc
  | some _ => .error (.recordNotObject className)

/-- Loads records of a class in order, up to the first malformed one. -/
def seedRecords (s : Store) (className : String) : List Json → Option StoreError × Store
  | [] => (none, s)
  | json :: rest =>
    match fixtureDocument className json with
    | .error e => (some e, s)
    | .ok doc => seedRecords (s.create className doc).2 className rest

/-- Loads the records of classes in order, up to the first malformed one. What is no list of records
is skipped. -/
def seedClasses (s : Store) : Fields Json → Option StoreError × Store
  | [] => (none, s)
  | (className, records) :: rest =>
    match s.seedRecords className ((records.asArray?).getD []) with
    | (some e, s) => (some e, s)
    | (none, s) => seedClasses s rest

/-- Loads a fixture; the first part of the result is the failure that ended the loading. -/
def load (s : Store) (fixture : Json) : Option StoreError × Store :=
  match s.seedFiles (((fixture.member? "files").bind Json.asArray?).getD []) with
  | (some e, s) => (some e, s)
  | (none, s) => s.seedClasses (((fixture.member? "classes").bind Json.asObject?).getD [])

end ClassApi.Store

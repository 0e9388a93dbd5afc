import ClassApi.Access.Failure
import ClassApi.Catalog.Registry
import ClassApi.Store.Basic
import ClassApi.Store.Record

/-!
# Access to records

How requests read the store. A record that is missing and one that is marked as removed are
different failures; files are reached through the name of the file class. Lists are fetched in two
steps, first the ids and then the records of a page.
-/

namespace ClassApi

/-- A record of a class that is not removed. -/
structure ClassRecord where
  /-- The name of the class. -/
  className : String
  /-- The id. -/
  id : ObjectId
  /-- The values of the declared fields. -/
  data : Document
  /-- The version of the class definitions at the last write. -/
  classVersion : Int
  /-- When it was created. -/
  createdAt : Option Timestamp
  /-- When it was last written. -/
  updatedAt : Option Timestamp

namespace ClassRecord

/-- The id shown to clients. -/
def globalId (r : ClassRecord) : String :=
  GlobalId.encode r.className r.id.hex

/-- The data together with the storage id. -/
def raw (r : ClassRecord) : Document :=
  Fields.insert r.data "mongoId" (.string r.id.hex)

end ClassRecord

/-- An object with an id: a record or a file. -/
inductive Node where
  /-- A record of a class. -/
  | ofClass (record : ClassRecord)
  /-- A stored file. -/
  | ofFile (file : FileInfo)

/-- The name of the object type of a node. -/
def Node.typeName : Node → String
  | ofClass record => record.className
  | ofFile _ => fileClass

/-- The node of an edge. -/
inductive EdgeNode where
  /-- A node that was fetched with its page. -/
  | loaded (node : Node)
  /-- A reference, which is followed when the node is asked for. -/
  | pending (id : ObjectId)
  /-- Something that refers to no node. -/
  | missing

/-- The id that a stored value refers to: an id, or a text that clients may use for one. -/
def Value.referenceId? : Value → Option ObjectId
  | .objectId id => some id
  | .string raw => ObjectId.ofClient? raw
  | _ => none

namespace Access

/-- A fetched document as a record: nothing is not found, and a removed record is a failure of its
own. -/
def parse (className : String) : Option Document → Except ResolveError ClassRecord
  | none => .error (.notFound className)
  | some doc =>
    match StoredRecord.ofDocument doc with
    | .error e => .error (.storage e)
    | .ok stored =>
      if stored.deleted then .error (.removed className)
      else .ok {
        className, id := stored.id, data := stored.data, classVersion := stored.classVersion
        createdAt := stored.createdAt, updatedAt := stored.updatedAt }

/-- The first record that a query selects, removed ones included, so that they are reported as
removed. -/
def findOne (s : Store) (className : String) (query : Document) :
    Except ResolveError ClassRecord := do
  parse className (← ofStore (s.findOne className query))

/-- The record of a class with an id. -/
def classById (s : Store) (className : String) (id : ObjectId) : Except ResolveError ClassRecord :=
  findOne s className (Store.byId id)

/-- The node of a class, or of the file class, with an id. -/
def byId (s : Store) (className : String) (id : ObjectId) : Except ResolveError Node :=
  if className = fileClass then
    match s.file? id with
    | some file => .ok (.ofFile file)
    | none => .error .fileNotFound
  else (classById s className id).map .ofClass

/-- The ids of the records that a query selects and that are not removed, in sort order. -/
def findIds (s : Store) (className : String) (query : Document) (sort : Option Document) :
    Except ResolveError (List ObjectId) := do
  let query := Fields.insert query "_deleted" (.bool false)
  let docs ← ofStore (s.find className query sort (some [("_id", .int32 1)]))
  return docs.filterMap fun doc => (Fields.get? doc "_id").bind Value.asObjectId?

/-- Reads fetched documents as records, in order. -/
def parseAll (className : String) : List Document → Except ResolveError (List ClassRecord)
  | [] => .ok []
  | doc :: rest => do
    let record ← parse className (some doc)
    let records ← parseAll className rest
    return record :: records

/-- The records with some ids, in storage order. -/
def manyByIds (s : Store) (className : String) (ids : List ObjectId) :
    Except ResolveError (List ClassRecord) := do
  if ids.isEmpty then return []
  let query : Document := [("_id", .document [("$in", .array (ids.map .objectId))])]
  parseAll className (← ofStore (s.find className query none none))

/-- The record with an id among some: the last one, should there be several. -/
def recordWithId (records : List ClassRecord) (id : ObjectId) : Option ClassRecord :=
  records.reverse.find? fun record => record.id = id

/-- The nodes for some ids, each record being given once: a repeated id has no node the second
time. -/
def nodesFor (records : List ClassRecord) : List ObjectId → List EdgeNode
  | [] => []
  | id :: rest =>
    match recordWithId records id with
    | some record => .loaded (.ofClass record) :: nodesFor (records.filter fun r => r.id ≠ id) rest
    | none => .missing :: nodesFor records rest

/-- The id a client refers to, provided there is such a node. -/
def verifyReference (s : Store) (className raw : String) : Except ResolveError ObjectId :=
  let missing := ResolveError.missingReference className raw
  match ObjectId.ofClient? raw with
  | none => .error missing
  | some id =>
    match byId s className id with
    | .ok _ => .ok id
    | .error (.notFound _) => .error missing
    | .error (.removed _) => .error missing
    | .error .fileNotFound => .error missing
    | .error e => .error e

end Access

end ClassApi

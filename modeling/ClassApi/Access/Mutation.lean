import ClassApi.Access.Listing

/-!
# Mutations

Five mutations for every class. References among the input are verified and decoded before anything
is written, so a mutation that fails on its input leaves the documents as they were. Removing only
marks a record; recovering takes the mark away.
-/

namespace ClassApi

/-- The kinds of mutations. -/
inductive MutationKind where
  /-- Writes a new record. -/
  | create
  /-- Changes some fields of a record. -/
  | update
  /-- Replaces all fields of a record, which need not exist. -/
  | replace
  /-- Marks a record as removed. -/
  | remove
  /-- Takes the mark of a removed record away. -/
  | recover
deriving DecidableEq, Repr

namespace MutationKind

/-- All kinds, in the order of the schema. -/
def all : List MutationKind :=
  [create, update, replace, remove, recover]

/-- The verb in the name of the mutation. -/
def verb : MutationKind → String
  | create => "create"
  | update => "update"
  | replace => "replace"
  | remove => "remove"
  | recover => "recover"

/-- The name of the mutation of a class. -/
def fieldName (kind : MutationKind) (className : String) : String :=
  kind.verb ++ className

/-- The name of the main field of the result. -/
def payloadFieldName (kind : MutationKind) (className : String) : String :=
  match kind with
  | create => "created" ++ className
  | update => "updated" ++ className
  | replace => "replaced" ++ className
  | remove => "removed" ++ className ++ "Id"
  | recover => "recovered" ++ className

/-- The name of the input type. -/
def inputTypeName (kind : MutationKind) (className : String) : String :=
  kind.fieldName className ++ "Input"

/-- The name of the type of the result. -/
def payloadTypeName (kind : MutationKind) (className : String) : String :=
  kind.fieldName className ++ "Payload"

end MutationKind

/-- The result of a mutation. -/
structure MutationPayload where
  /-- The mark the client gave the mutation. -/
  clientMutationId : Option String
  /-- The record as it is now. -/
  record : Option ClassRecord
  /-- The id of the record that was removed. -/
  removedId : Option String

namespace Mutation

/-- The member by which clients mark their mutations. -/
def clientMutationIdName : String := "clientMutationId"

/-- The stored form of a reference in the input; it has to exist. -/
def resolveReference (s : Store) (target : String) (value : Datum) : Except ResolveError Value :=
  match value with
  | .null => .ok .null
  | .string raw => (Access.verifyReference s target raw).map .objectId
  | other =>
    .error (.invalidArgument
      ("Expected an id referencing \"" ++ target ++ "\", got " ++ other.literal))

/-- The stored forms of references, in order. -/
def resolveReferences (s : Store) (target : String) : List Datum → Except ResolveError (List Value)
  | [] => .ok []
  | value :: rest => do
    let resolved ← resolveReference s target value
    let others ← resolveReferences s target rest
    return resolved :: others

/-- The stored form of the input to a field. -/
def resolveValue (s : Store) (f : ClassField) (value : Datum) : Except ResolveError Value :=
  match f.kind, value with
  | .relation target, value => resolveReference s target value
  | .relationList target, .list items => (resolveReferences s target items).map .array
  | .relationList target, .string raw => (resolveReferences s target [.string raw]).map .array
  | .scalar .mixed, value => .ok value.toStoredMixed
  | .list .mixed, .list items => .ok (.array (items.map Datum.toStoredMixed))
  | _, value => .ok value.toStored

/-- The data that the input to a mutation gives, added to some data. Members that are no fields are
ignored. -/
def resolveMembers (s : Store) (c : ClassInfo) (data : Document) :
    Fields Datum → Except ResolveError Document
  | [] => .ok data
  | (name, value) :: rest =>
    if name = clientMutationIdName ∨ name = "id" then resolveMembers s c data rest
    else
      match c.field? name with
      | none => resolveMembers s c data rest
      | some f =>
        match resolveValue s f value with
        | .error e => .error e
        | .ok stored => resolveMembers s c (Fields.insert data f.name stored) rest

/-- The data that the input to a mutation gives. -/
def resolveInput (s : Store) (c : ClassInfo)
    (input : Fields Datum) : Except ResolveError Document :=
  resolveMembers s c [] input

/-- The id in the input, when one is given as a text. -/
def inputId (input : Fields Datum) : Except ResolveError (Option ObjectId) :=
  match Fields.get? input "id" with
  | some (.string raw) => (clientId raw).map some
  | _ => .ok none

/-- The id in the input, which has to be there. -/
def requiredId (input : Fields Datum) : Except ResolveError ObjectId := do
  match ← inputId input with
  | some id => return id
  | none => throw (.invalidArgument "Argument \"id\" is required")

/-- The mark of the client in the input. -/
def clientMutationId (input : Fields Datum) : Option String :=
  (Fields.get? input clientMutationIdName).bind Datum.asString?

/-- The result that shows a record. -/
def payloadOf (input : Fields Datum) (record : ClassRecord) : MutationPayload where
  clientMutationId := clientMutationId input
  record := some record
  removedId := none

/-- The update that writes some members. -/
def setting (members : Document) : Document :=
  [("$set", .document members)]

/-- Writes a new record. -/
def create (s : Store) (c : ClassInfo) (version : Int) (input : Fields Datum) :
    Except ResolveError MutationPayload × Store :=
  match resolveInput s c input with
  | .error e => (.error e, s)
  | .ok data =>
    let (doc, s) := s.create c.name [("data", .document data), ("_classVersion", .int64 version)]
    ((Access.parse c.name (some doc)).map (payloadOf input), s)

/-- Changes the fields of a record that the input gives. -/
def update (s : Store) (c : ClassInfo) (version : Int) (input : Fields Datum) :
    Except ResolveError MutationPayload × Store :=
  match requiredId input with
  | .error e => (.error e, s)
  | .ok id =>
    match resolveInput s c input with
    | .error e => (.error e, s)
    | .ok data =>
      let members := Fields.insert (Fields.ofEntries (data.map fun m => ("data." ++ m.1, m.2)))
        "_classVersion" (.int64 version)
      match s.update c.name (Store.byId id) (setting members) with
      | (.error e, s) => (.error (.storage e), s)
      | (.ok _, s) => ((Access.classById s c.name id).map (payloadOf input), s)

/-- Replaces all fields of a record; without an id, or with one that is not in use, a record is
written. The id is drawn before the references are verified. -/
def replace (s : Store) (c : ClassInfo) (version : Int) (input : Fields Datum) :
    Except ResolveError MutationPayload × Store :=
  match inputId input with
  | .error e => (.error e, s)
  | .ok given =>
    let (id, s) :=
      match given with
      | some id => (id, s)
      | none => s.drawId
    match resolveInput s c input with
    | .error e => (.error e, s)
    | .ok data =>
      let members : Document := [("data", .document data), ("_classVersion", .int64 version)]
      match s.findOneAndUpdate c.name (Store.byId id) (setting members) true true with
      | (.error e, s) => (.error (.storage e), s)
      | (.ok doc, s) => ((Access.parse c.name doc).map (payloadOf input), s)

/-- Sets or takes away the mark of a removed record; there has to be one with the id. -/
def mark (s : Store) (c : ClassInfo) (deleted : Bool)
    (id : ObjectId) : Except ResolveError Unit × Store :=
  match s.update c.name (Store.byId id) (setting [("_deleted", .bool deleted)]) with
  | (.error e, s) => (.error (.storage e), s)
  | (.ok matched, s) => (if matched = 0 then .error (.notFound c.name) else .ok (), s)

/-- Marks a record as removed. -/
def remove (s : Store) (c : ClassInfo) (input : Fields Datum) :
    Except ResolveError MutationPayload × Store :=
  match requiredId input with
  | .error e => (.error e, s)
  | .ok id =>
    match mark s c true id with
    | (.error e, s) => (.error e, s)
    | (.ok (), s) =>
      (.ok { clientMutationId := clientMutationId input, record := none
             removedId := some id.hex }, s)

/-- Takes the mark of a removed record away. -/
def recover (s : Store) (c : ClassInfo) (input : Fields Datum) :
    Except ResolveError MutationPayload × Store :=
  match requiredId input with
  | .error e => (.error e, s)
  | .ok id =>
    match mark s c false id with
    | (.error e, s) => (.error e, s)
    | (.ok (), s) => ((Access.classById s c.name id).map (payloadOf input), s)

/-- Runs a mutation. -/
def run (kind : MutationKind) (s : Store) (c : ClassInfo) (version : Int) (input : Fields Datum) :
    Except ResolveError MutationPayload × Store :=
  match kind with
  | .create => create s c version input
  | .update => update s c version input
  | .replace => replace s c version input
  | .remove => remove s c input
  | .recover => recover s c input

end Mutation

end ClassApi

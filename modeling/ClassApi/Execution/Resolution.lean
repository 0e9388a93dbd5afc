import ClassApi.Execution.Source
import ClassApi.Schema.Resolver

/-!
# Resolution

What the resolvers of a schema do. All of them only read the store, except those of mutations, which
write, provided the request has the permission to.
-/

namespace ClassApi

/-- What belongs to a request besides its text. -/
structure RequestContext where
  /-- The project. -/
  project : Project
  /-- Whether mutations are allowed. -/
  allowMutation : Bool

/-- The id among arguments, which has to be a text. -/
def idText (args : Fields Datum) : Except ResolveError String :=
  match Fields.get? args "id" with
  | some (.string data) => .ok data
  | _ => .error .notAString

/-- The input of a mutation; what is no object counts as one without members. -/
def inputOf (args : Fields Datum) : Fields Datum :=
  match Fields.get? args "input" with
  | some (.object members) => members
  | _ => []

/-- A part of a record. -/
def RecordMember.read (r : ClassRecord) : RecordMember → Option FieldValue
  | id => some (.text r.globalId)
  | storageId => some (.text r.id.hex)
  | createdAt => r.createdAt.map fun t => .text t.iso
  | updatedAt => r.updatedAt.map fun t => .text t.iso
  | className => some (.text r.className)
  | classVersion => some (.int r.classVersion)

/-- A part of a file. -/
def FileMember.read (f : FileInfo) : FileMember → Option FieldValue
  | id => some (.text (GlobalId.encode fileClass f.id.hex))
  | storageId => some (.text f.id.hex)
  | filename => some (.text f.filename)
  | contentType => f.contentType.map .text
  | length => some (.int f.length)
  | createdAt => some (.text f.createdAt.iso)
  | updatedAt => some (.text f.updatedAt.iso)

/-- A part of a page. -/
def ConnectionMember.read (c : Connection EdgeNode) : ConnectionMember → FieldValue
  | pageInfo => .object (.pageInfo c.pageInfo)
  | edges => .objects (c.edges.map .edge)
  | totalCount => .int c.totalCount

/-- A part of the description of a page. -/
def PageInfoMember.read (i : PageInfo) : PageInfoMember → Option FieldValue
  | hasNextPage => some (.bool i.hasNextPage)
  | hasPreviousPage => some (.bool i.hasPreviousPage)
  | startCursor => i.startCursor.map .text
  | endCursor => i.endCursor.map .text

/-- A part of the result of a mutation. -/
def PayloadMember.read (p : MutationPayload) : PayloadMember → Option FieldValue
  | clientMutationId => p.clientMutationId.map .text
  | record => p.record.map fun r => .object (.record r)
  | removedId => p.removedId.map .text

/-- A part of a project. -/
def ProjectMember.read (p : Project) : ProjectMember → Option FieldValue
  | id => some (.text (GlobalId.encode "Project" p.id))
  | storageId => some (.text p.id)
  | name => some (.text p.name)
  | shortName => p.shortName.map .text
  | uniqueName => p.uniqueName.map .text
  | hash => some (.text p.schemaHash)
  | classes => p.classes.map fun c => .object (.projectClasses c)

/-- A part of the classes of a project. -/
def ProjectClassesMember.read (c : ProjectClasses) : ProjectClassesMember → FieldValue
  | version => .int c.version
  | definitions => .datum (.ofJson c.definitions)

namespace Access

/-- The node with a global id; its class may be named in any case. -/
def nodeByGlobalId (s : Store) (registry : Registry) (data : String) : Except ResolveError Node :=
  match GlobalId.decode? data with
  | none => .error (.invalidId data)
  | some globalId =>
    match registry.canonicalName? globalId.typeName with
    | none => .error (.unknownClass globalId.typeName)
    | some className =>
      match ObjectId.parse? globalId.id with
      | none => .error (.notFound className)
      | some id => byId s className id

/-- The file with an id that a client sent. -/
def fileById (s : Store) (id : ObjectId) : Except ResolveError FileInfo :=
  match s.file? id with
  | some file => .ok file
  | none => .error .fileNotFound

/-- The node of an edge: references are followed now. -/
def edgeNode (s : Store) (target : String) : EdgeNode → Except ResolveError (Option Node)
  | .loaded node => .ok (some node)
  | .pending id => (byId s target id).map some
  | .missing => .ok none

/-- The node that a stored value refers to, if it refers to any. -/
def related (s : Store) (target : String)
    (value : Option Value) : Except ResolveError (Option Node) :=
  match value.bind Value.referenceId? with
  | none => .ok none
  | some id => (byId s target id).map some

/-- The references in a stored list; anything else holds none. -/
def references : Option Value → List EdgeNode
  | some (.array items) =>
    items.map fun item =>
      match item.referenceId? with
      | some id => .pending id
      | none => .missing
  | _ => []

end Access

namespace Resolver

/-- The value of a field that only reads the store. Mutations are refused. -/
def read (r : Resolver) (context : RequestContext) (s : Store) (source : Source)
    (args : Fields Datum) : Except ResolveError (Option FieldValue) :=
  match r with
  | page c => do return some (.object (.connection (← Listing.page s c args)))
  | single c => do return some (.object (.record (← Listing.single s c args)))
  | raw c => do
    let id ← clientId (← idText args)
    let record ← Access.classById s c.name id
    return some (.datum (Value.toDatum (.document record.raw)))
  | node registry => do return some (.ofNode (← Access.nodeByGlobalId s registry (← idText args)))
  | file => do
    let id ← clientId (← idText args)
    return some (.object (.file (← Access.fileById s id)))
  | project => .ok (some (.object (.project context.project)))
  | mutation kind c _ => .error (.mutationNotAllowed (kind.fieldName c.name))
  | stored name => do
    let record ← source.asRecord
    return (Fields.get? record.data name).map fun value => .datum value.toDatum
  | relation name target => do
    let record ← source.asRecord
    let node ← Access.related s target (Fields.get? record.data name)
    return node.map fun node => .object (.ofNode node)
  | relationPage name => do
    let record ← source.asRecord
    let connection ← paginate (Access.references (Fields.get? record.data name)) (.ofArguments args)
    return some (.object (.connection connection))
  | ofRecord member => do return member.read (← source.asRecord)
  | ofFile member => do return member.read (← source.asFile)
  | ofConnection member => do return some (member.read (← source.asConnection))
  | ofPageInfo member => do return member.read (← source.asPageInfo)
  | edgeNode target => do
    let edge ← source.asEdge
    let node ← Access.edgeNode s target edge.node
    return node.map fun node => .object (.ofNode node)
  | edgeCursor => do return some (.text (← source.asEdge).cursor)
  | ofPayload member => do return member.read (← source.asPayload)
  | ofProject member => do return member.read (← source.asProject)
  | ofProjectClasses member => do return some (member.read (← source.asProjectClasses))

/-- The value of a field, and the store afterwards. Only an allowed mutation changes the store. -/
def run (r : Resolver) (context : RequestContext) (s : Store) (source : Source)
    (args : Fields Datum) : Except ResolveError (Option FieldValue) × Store :=
  match r, context.allowMutation with
  | mutation kind c version, true =>
    let (payload, s) := Mutation.run kind s c version (inputOf args)
    (payload.map fun payload => some (.object (.payload payload)), s)
  | r, _ => (r.read context s source args, s)

end Resolver

end ClassApi

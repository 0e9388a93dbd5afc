import ClassApi.Schema.Definition

/-!
# The types of a class

A class gives rise to an object type, to the connection and edge types of its lists, to inputs that
filter, sort and write, and to the results of its mutations. Three queries and five mutations make
use of them.
-/

namespace ClassApi

/-- The name of the interface of everything that has an id. -/
def nodeInterface : String := "Node"

/-- The name of the type that describes a page. -/
def pageInfoType : String := "PageInfo"

/-- The arguments that select a page. -/
def pageArguments : List InputMember := [
  .plain "after" (.named "String"),
  .plain "first" (.named "Int"),
  .plain "before" (.named "String"),
  .plain "last" (.named "Int")]

/-- The type of the pages of a list of objects of a type. -/
def connectionType (nodeType : String) : TypeDefinition :=
  .object {
    description := some s!"A connection to a list of {nodeType} items."
    fields := [
      .plain "pageInfo" (.nonNull (.named pageInfoType)) (.ofConnection .pageInfo),
      .plain "edges" (.list (.named (edgeTypeName nodeType))) (.ofConnection .edges),
      .plain "totalCount" (.named "Int") (.ofConnection .totalCount)]
    interfaces := [] }

/-- The type of the items of such a page. -/
def edgeType (nodeType : String) : TypeDefinition :=
  .object {
    description := some "An edge in a connection."
    fields := [
      .plain "node" (.named nodeType) (.edgeNode nodeType),
      .plain "cursor" (.nonNull (.named "String")) .edgeCursor]
    interfaces := [] }

/-- The connection type and the edge type of a type, with their names. -/
def connectionTypes (nodeType : String) : List (String × TypeDefinition) :=
  [(connectionTypeName nodeType, connectionType nodeType),
    (edgeTypeName nodeType, edgeType nodeType)]

/-- The argument for the id of what is asked for. -/
def idArgument (type : TypeRef) : InputMember :=
  .plain "id" type

/-- An id that has to be given. -/
def requiredId : TypeRef :=
  .nonNull (.named "ID")

/-- Where the value of a declared field comes from. -/
def ClassField.resolver (f : ClassField) : Resolver :=
  match f.kind with
  | .scalar _ => .stored f.name
  | .list _ => .stored f.name
  | .relation target => .relation f.name target
  | .relationList _ => .relationPage f.name

/-- The arguments of a declared field: lists of objects are served in pages. -/
def ClassField.arguments (f : ClassField) : List InputMember :=
  match f.kind with
  | .relationList _ => pageArguments
  | _ => []

/-- A declared field in the object type. -/
def ClassField.definition (f : ClassField) : FieldDefinition where
  name := f.name
  type := f.typeRef .detail
  description := f.description
  arguments := f.arguments
  resolver := f.resolver

/-- The fields every object of a class has besides the declared ones. -/
def systemFields : List FieldDefinition := [
  .plain "id" (.nonNull (.named "ID")) (.ofRecord .id),
  .plain "mongoId" (.nonNull (.named "String")) (.ofRecord .storageId),
  .plain "createdAt" (.named "String") (.ofRecord .createdAt),
  .plain "updatedAt" (.named "String") (.ofRecord .updatedAt),
  .plain "_className" (.nonNull (.named "String")) (.ofRecord .className),
  .plain "_classVersion" (.nonNull (.named "Int")) (.ofRecord .classVersion)]

namespace ClassInfo

/-- The object type of a class. -/
def objectType (c : ClassInfo) : TypeDefinition :=
  .object {
    description := none
    fields := c.fields.map ClassField.definition ++ systemFields
    interfaces := [nodeInterface] }

/-- The declared fields as clients give them. -/
def inputMembers (c : ClassInfo) (mode : FieldMode) : List InputMember :=
  c.fields.map fun f => { name := f.name, type := f.typeRef mode, description := f.description }

/-- The filter input of a field. -/
def fieldFilterInput (f : ClassField) : TypeDefinition :=
  .input (f.scalar.filterOperators.map fun operator =>
    .plain operator (f.scalar.filterType operator))

/-- The filter input of a class. -/
def filterInput (c : ClassInfo) : TypeDefinition :=
  .input (c.filters.map fun (f, typeName) => .plain f.name (.named typeName))

/-- The filter inputs of the fields and then that of the class, if there is anything to filter
by. -/
def filterInputs (c : ClassInfo) : List (String × TypeDefinition) :=
  if c.filters.isEmpty then []
  else
    c.filters.map (fun (f, typeName) => (typeName, fieldFilterInput f))
      ++ [(c.filterTypeName, c.filterInput)]

/-- The sort enumeration of a class. -/
def orderEnum (c : ClassInfo) : TypeDefinition :=
  .enum (c.orderItems.map OrderItem.name).eraseDups

/-- The arguments that filter and sort a list. -/
def listArguments (c : ClassInfo) : List InputMember :=
  (if c.filters.isEmpty then [] else [.plain "filters" (.named c.filterTypeName)])
    ++ [.plain "orderBy" (.list (.named c.orderTypeName))]

/-- The query for a page of the objects of a class. -/
def listField (c : ClassInfo) : FieldDefinition where
  name := c.listQueryName
  type := .named (connectionTypeName c.name)
  description := none
  arguments := pageArguments ++ c.listArguments
  resolver := .page c

/-- The query for one object of a class. -/
def singleField (c : ClassInfo) : FieldDefinition where
  name := c.singleQueryName
  type := .named c.name
  description := none
  arguments := idArgument (.named "ID") :: c.inputMembers .input
  resolver := .single c

/-- The query for the stored data of an object. -/
def rawField (c : ClassInfo) : FieldDefinition where
  name := c.singleQueryName ++ "Raw"
  type := .named "MixedType"
  description := none
  arguments := [idArgument requiredId]
  resolver := .raw c

/-- The members of the input of a mutation, the mark of the client aside. -/
def mutationMembers (c : ClassInfo) : MutationKind → List InputMember
  | .create => c.inputMembers .input
  | .update => c.inputMembers .input ++ [idArgument requiredId]
  | .replace => c.inputMembers .strictInput ++ [idArgument (.named "ID")]
  | .remove => [idArgument requiredId]
  | .recover => [idArgument requiredId]

/-- The input of a mutation. -/
def mutationInput (c : ClassInfo) (kind : MutationKind) : TypeDefinition :=
  .input (c.mutationMembers kind ++ [.plain Mutation.clientMutationIdName (.named "String")])

/-- The main field of the result of a mutation: the record, or the id of the one that was
removed. -/
def payloadField (c : ClassInfo) (kind : MutationKind) : FieldDefinition :=
  match kind with
  | .remove => .plain (kind.payloadFieldName c.name) (.named "String") (.ofPayload .removedId)
  | kind => .plain (kind.payloadFieldName c.name) (.named c.name) (.ofPayload .record)

/-- The result of a mutation: the mark of the client, the main field, and the list of the class. -/
def mutationPayload (c : ClassInfo) (kind : MutationKind) : TypeDefinition :=
  .object {
    description := none
    fields := [
      .plain Mutation.clientMutationIdName (.named "String") (.ofPayload .clientMutationId),
      c.payloadField kind,
      c.listField]
    interfaces := [] }

/-- A mutation. -/
def mutationField (c : ClassInfo) (version : Int) (kind : MutationKind) : FieldDefinition where
  name := kind.fieldName c.name
  type := .named (kind.payloadTypeName c.name)
  description := none
  arguments := [.plain "input" (.nonNull (.named (kind.inputTypeName c.name)))]
  resolver := .mutation kind c version

/-- The types of the mutations of a class. -/
def mutationTypes (c : ClassInfo) : List (String × TypeDefinition) :=
  MutationKind.all.flatMap fun kind =>
    [(kind.inputTypeName c.name, c.mutationInput kind),
      (kind.payloadTypeName c.name, c.mutationPayload kind)]

/-- All types of a class. -/
def types (c : ClassInfo) : List (String × TypeDefinition) :=
  [(c.name, c.objectType)] ++ connectionTypes c.name ++ c.filterInputs
    ++ [(c.orderTypeName, c.orderEnum)] ++ c.mutationTypes

/-- The queries of a class. -/
def queryFields (c : ClassInfo) : List FieldDefinition :=
  [c.listField, c.singleField, c.rawField]

/-- The mutations of a class. -/
def mutationFields (c : ClassInfo) (version : Int) : List FieldDefinition :=
  MutationKind.all.map (c.mutationField version)

end ClassInfo

end ClassApi

import ClassApi.Project
import ClassApi.Schema.Domain

/-!
# Assembly

Domains are merged into one schema. The first type of a name is kept, so domains can share types; of
the root fields of a name the last one is kept, at the place of the first. A schema that is put
together refers to no unknown type and defines no type under the name of a built-in scalar.
-/

namespace ClassApi

namespace Schema

/-- The object type that describes a page. -/
def pageInfo : TypeDefinition :=
  .object {
    description := some "Information about pagination in a connection."
    fields := [
      .plain "hasNextPage" (.nonNull (.named "Boolean")) (.ofPageInfo .hasNextPage),
      .plain "hasPreviousPage" (.nonNull (.named "Boolean")) (.ofPageInfo .hasPreviousPage),
      .plain "startCursor" (.named "String") (.ofPageInfo .startCursor),
      .plain "endCursor" (.named "String") (.ofPageInfo .endCursor)]
    interfaces := [] }

/-- The types every schema has. -/
def baseTypes : Fields TypeDefinition := [
  ("ObjectIDType", .scalar (some "Storage identifier, raw or encoded as a global id")),
  ("MixedType", .scalar (some "Arbitrary JSON value")),
  (pageInfoType, pageInfo),
  (nodeInterface, .interface (some "An object with an ID") [⟨"id", requiredId⟩])]

/-- Refuses types that name a member twice. -/
def checkMembers : List (String × TypeDefinition) → Except SchemaError Unit
  | [] => .ok ()
  | (name, type) :: rest =>
    match Fields.firstRepeated type.memberNames with
    | some member => .error (.duplicateMember name member)
    | none => checkMembers rest

/-- The types of domains beside those every schema has. -/
def collectTypes (domains : List Domain) : Fields TypeDefinition :=
  Fields.addMissing baseTypes (domains.flatMap Domain.types)

/-- Root fields merged by name. -/
def mergeRoot (fields : List FieldDefinition) : List FieldDefinition :=
  (Fields.ofEntries (fields.map fun f => (f.name, f))).map Prod.snd

/-- An object type with the merged root fields. -/
def rootType (fields : List FieldDefinition) : TypeDefinition :=
  .object { description := none, fields := mergeRoot fields, interfaces := [] }

/-- The roots of domains with their names; that of mutations only if there are any. -/
def roots (domains : List Domain) : List (String × TypeDefinition) :=
  let mutations := domains.flatMap Domain.mutations
  (queryRoot, rootType (domains.flatMap Domain.queries))
    :: if mutations.isEmpty then [] else [(mutationRoot, rootType mutations)]

/-- Types in the order of their names. -/
def sortByName {α : Type} (types : Fields α) : Fields α :=
  types.mergeSort fun a b => a.1 ≤ b.1

/-- Refuses types that have the name of a built-in scalar. -/
def checkNames : List (String × TypeDefinition) → Except SchemaError Unit
  | [] => .ok ()
  | (name, _) :: rest =>
    if builtinScalars.contains name then .error (.alreadyExists name)
    else checkNames rest

/-- The first of some names that no type has. -/
def firstUnknown (schema : Schema) (names : List String) : Option String :=
  names.find? fun name => (schema.type? name).isNone

/-- Refuses references to unknown types. -/
def checkReferences (schema : Schema) : List (String × TypeDefinition) → Except SchemaError Unit
  | [] => .ok ()
  | (_, type) :: rest =>
    match firstUnknown schema type.references with
    | some name => .error (.notFound name)
    | none => checkReferences schema rest

/-- Refuses object types without fields. -/
def checkObjects : List (String × TypeDefinition) → Except SchemaError Unit
  | [] => .ok ()
  | (name, .object type) :: rest =>
    if type.fields.isEmpty then .error (.noFields name)
    else checkObjects rest
  | _ :: rest => checkObjects rest

/-- Merges domains into a schema. A type with the name of a root takes its place. -/
def assemble (domains : List Domain) : Except SchemaError Schema := do
  checkMembers (domains.flatMap Domain.types)
  let types := Fields.ofEntries (roots domains ++ sortByName (collectTypes domains))
  let schema : Schema := { types, hasMutation := !(domains.flatMap Domain.mutations).isEmpty }
  checkNames types
  checkReferences schema types
  checkObjects types
  return schema

end Schema

end ClassApi

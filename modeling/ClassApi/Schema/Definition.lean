import ClassApi.Fields
import ClassApi.Schema.Resolver

/-!
# Types of a schema

The types a schema is made of. Objects and interfaces have fields, inputs have members, enumerations
have items; the names of types are kept beside them. No type names a member twice: building one that
would is refused.
-/

namespace ClassApi

/-- Why a schema is refused. -/
inductive SchemaError where
  /-- A type names a member twice. -/
  | duplicateMember (typeName memberName : String)
  /-- A type has the name of a built-in scalar. -/
  | alreadyExists (typeName : String)
  /-- A type is referred to but not defined. -/
  | notFound (typeName : String)
  /-- An object type has no fields. -/
  | noFields (typeName : String)
deriving DecidableEq, Repr

/-- The text shown to callers. -/
def SchemaError.message : SchemaError → String
  | duplicateMember typeName memberName =>
    s!"Error generating schema: Field \"{memberName}\" of \"{typeName}\" already exists"
  | alreadyExists typeName => s!"Error generating schema: Type \"{typeName}\" already exists"
  | notFound typeName => s!"Error generating schema: Type \"{typeName}\" not found"
  | noFields typeName =>
    s!"Error generating schema: Object \"{typeName}\" must define one or more fields"

/-- An argument of a field, or a member of an input. -/
structure InputMember where
  /-- The name. -/
  name : String
  /-- The type. -/
  type : TypeRef
  /-- A description for readers. -/
  description : Option String
deriving DecidableEq, Repr

/-- A field of an object type. -/
structure FieldDefinition where
  /-- The name. -/
  name : String
  /-- The type. -/
  type : TypeRef
  /-- A description for readers. -/
  description : Option String
  /-- The arguments. -/
  arguments : List InputMember
  /-- Where its value comes from. -/
  resolver : Resolver

/-- A field every object of an interface has. -/
structure InterfaceField where
  /-- The name. -/
  name : String
  /-- The type. -/
  type : TypeRef
deriving DecidableEq, Repr

/-- An object type. -/
structure ObjectType where
  /-- A description for readers. -/
  description : Option String
  /-- The fields in order. -/
  fields : List FieldDefinition
  /-- The interfaces. -/
  interfaces : List String

/-- A type. -/
inductive TypeDefinition where
  /-- Values without parts. -/
  | scalar (description : Option String)
  /-- Objects. -/
  | object (type : ObjectType)
  /-- Objects of several types. -/
  | interface (description : Option String) (fields : List InterfaceField)
  /-- Objects that clients give. -/
  | input (members : List InputMember)
  /-- One of some names. -/
  | enum (items : List String)

namespace InputMember

/-- A member without a description. -/
def plain (name : String) (type : TypeRef) : InputMember :=
  { name, type, description := none }

end InputMember

namespace FieldDefinition

/-- A field without arguments and description. -/
def plain (name : String) (type : TypeRef) (resolver : Resolver) : FieldDefinition :=
  { name, type, description := none, arguments := [], resolver }

/-- The argument with a name. -/
def argument? (f : FieldDefinition) (name : String) : Option InputMember :=
  f.arguments.find? fun a => a.name = name

end FieldDefinition

namespace ObjectType

/-- The field with a name. -/
def field? (t : ObjectType) (name : String) : Option FieldDefinition :=
  t.fields.find? fun f => f.name = name

end ObjectType

namespace TypeDefinition

/-- The names of the members, in order; items of enumerations are no members. -/
def memberNames : TypeDefinition → List String
  | scalar _ => []
  | object type => type.fields.map FieldDefinition.name
  | interface _ fields => fields.map InterfaceField.name
  | input members => members.map InputMember.name
  | enum _ => []

/-- The names of the types that a type refers to: those of its fields or members, then those of
arguments, then its interfaces. -/
def references : TypeDefinition → List String
  | object type =>
    type.fields.map (fun f => f.type.baseName)
      ++ type.fields.flatMap (fun f => f.arguments.map fun a => a.type.baseName)
      ++ type.interfaces
  | interface _ fields => fields.map fun f => f.type.baseName
  | input members => members.map fun m => m.type.baseName
  | _ => []

/-- Whether a type has fields to select. -/
def isComposite : TypeDefinition → Bool
  | object _ => true
  | interface _ _ => true
  | _ => false

/-- Whether clients can give values of a type. -/
def isInput : TypeDefinition → Bool
  | scalar _ => true
  | input _ => true
  | enum _ => true
  | _ => false

end TypeDefinition

/-- A compiled schema: the types by name, and the names of the roots. -/
structure Schema where
  /-- The types. -/
  types : Fields TypeDefinition
  /-- Whether there is a root for mutations. -/
  hasMutation : Bool

namespace Schema

/-- The name of the root of queries. -/
def queryRoot : String := "Query"

/-- The name of the root of mutations. -/
def mutationRoot : String := "Mutation"

/-- The built-in scalars. -/
def builtinScalars : List String :=
  ["Int", "Float", "String", "Boolean", "ID"]

/-- The type with a name. -/
def type? (schema : Schema) (name : String) : Option TypeDefinition :=
  if builtinScalars.contains name then some (.scalar none) else Fields.get? schema.types name

/-- The object type with a name. -/
def object? (schema : Schema) (name : String) : Option ObjectType :=
  match schema.type? name with
  | some (.object type) => some type
  | _ => none

end Schema

end ClassApi

import ClassApi.Naming
import ClassApi.Schema.TypeRef

/-!
# Fields of classes

The types a field may have, and the type reference each one gives rise to. Where a field is used
decides its type: objects show relations resolved, inputs take raw ids, and only replacements insist
on required fields.
-/

namespace ClassApi

/-- The primitive type of a field. -/
inductive ScalarKind where
  /-- Texts. -/
  | string
  /-- Truth values. -/
  | boolean
  /-- Integers. -/
  | int
  /-- Floats. -/
  | float
  /-- Values of any shape. -/
  | mixed
  /-- References to other objects. -/
  | relation
deriving DecidableEq, Repr

namespace ScalarKind

/-- The kind a type name stands for, without regard to the case of ASCII letters. -/
def ofToken (token : String) : Option ScalarKind :=
  match token.toLower with
  | "string" => some string
  | "boolean" => some boolean
  | "int" => some int
  | "integer" => some int
  | "float" => some float
  | "number" => some float
  | "object" => some mixed
  | "mixed" => some mixed
  | "relation" => some relation
  | _ => none

/-- The scalar type of the schema; relations are identifiers. -/
def typeName : ScalarKind → String
  | string => "String"
  | boolean => "Boolean"
  | int => "Int"
  | float => "Float"
  | mixed => "MixedType"
  | relation => "ObjectIDType"

/-- Whether values of the kind are numbers. -/
def isNumeric : ScalarKind → Bool
  | int => true
  | float => true
  | _ => false

end ScalarKind

/-- The shape of a field. -/
inductive FieldKind where
  /-- One value. -/
  | scalar (kind : ScalarKind)
  /-- A list of values. -/
  | list (kind : ScalarKind)
  /-- A reference to an object of a class. -/
  | relation (target : String)
  /-- References to objects of a class. -/
  | relationList (target : String)
deriving DecidableEq, Repr

/-- Where a field is used. -/
inductive FieldMode where
  /-- In the object type. -/
  | detail
  /-- In lookup arguments, and in inputs that create or update. -/
  | input
  /-- In inputs that replace. -/
  | strictInput
deriving DecidableEq, Repr

/-- A field of a class. -/
structure ClassField where
  /-- The name in camel case; stored values have it too. -/
  name : String
  /-- The shape. -/
  kind : FieldKind
  /-- Whether a replacement must give a value. -/
  required : Bool
  /-- A description for readers of the schema. -/
  description : Option String
deriving DecidableEq, Repr

/-- The name of the connection type of a class. -/
def connectionTypeName (className : String) : String :=
  className ++ "Connection"

/-- The name of the edge type of a class. -/
def edgeTypeName (className : String) : String :=
  className ++ "Edge"

namespace ClassField

/-- The class a relation points at. -/
def target? (f : ClassField) : Option String :=
  match f.kind with
  | .relation target => some target
  | .relationList target => some target
  | _ => none

/-- Whether the field holds a list. -/
def isList (f : ClassField) : Bool :=
  match f.kind with
  | .list _ => true
  | .relationList _ => true
  | _ => false

/-- The kind of a single value. -/
def scalar (f : ClassField) : ScalarKind :=
  match f.kind with
  | .scalar kind => kind
  | .list kind => kind
  | _ => .relation

/-- The type of the field where its values are objects. -/
def detailType (f : ClassField) : TypeRef :=
  match f.kind with
  | .scalar kind => .named kind.typeName
  | .list kind => .list (.named kind.typeName)
  | .relation target => .named target
  | .relationList target => .named (connectionTypeName target)

/-- The type of the field where its values are given, `null` included. -/
def inputType (f : ClassField) : TypeRef :=
  match f.kind with
  | .scalar kind => .named kind.typeName
  | .list kind => .list (.named kind.typeName)
  | .relation _ => .named "ID"
  | .relationList _ => .list (.named "ID")

/-- The type of the field for a use. -/
def typeRef (f : ClassField) : FieldMode → TypeRef
  | .detail => f.detailType
  | .input => f.inputType
  | .strictInput => if f.required then .nonNull f.inputType else f.inputType

end ClassField

end ClassApi

import ClassApi.Schema.Definition

/-!
# Input values

Which values clients may give for a type. A single value stands for a list of one. Scalars take the
values of their kind, identifiers also take integers, and enumeration members may be given as texts.
-/

namespace ClassApi.Schema

/-- Whether a scalar type takes a value other than `null`. Types without a rule take every value. -/
def scalarAccepts (typeName : String) (value : Datum) : Bool :=
  match typeName, value with
  | "Int", value => value.asInt?.isSome
  | "Float", .number _ => true
  | "Float", _ => false
  | "String", .string _ => true
  | "String", _ => false
  | "Boolean", .bool _ => true
  | "Boolean", _ => false
  | "ID", .string _ => true
  | "ID", value => value.asInt?.isSome
  | "ObjectIDType", .string _ => true
  | "ObjectIDType", _ => false
  | _, _ => true

/-- Whether a value is one of the items of an enumeration. -/
def enumAccepts (items : List String) : Datum → Bool
  | .enum name => items.contains name
  | .string name => items.contains name
  | _ => false

/-- Whether a type without parts takes a value other than `null`. Inputs are not checked here: what
is no object passes for one without members. -/
def leafAccepts (schema : Schema) (typeName : String) (value : Datum) : Bool :=
  match schema.type? typeName with
  | some (.scalar _) => scalarAccepts typeName value
  | some (.enum items) => enumAccepts items value
  | _ => true

/-- The members of an input type. -/
def inputMembers? (schema : Schema) (typeName : String) : Option (List InputMember) :=
  match schema.type? typeName with
  | some (.input members) => some members
  | _ => none

/-- Whether all members that must not be `null` are given. -/
def givesRequired (members : List InputMember) (names : List String) : Bool :=
  members.all fun m => !m.type.isNonNull || names.contains m.name

mutual

/-- Whether a type takes a value. -/
def accepts (schema : Schema) (type : TypeRef) : Datum → Bool
  | .null => !type.isNonNull
  | .list items =>
    match type.item? with
    | some item => acceptsItems schema item items
    | none => leafAccepts schema type.baseName (.list items)
  | .object given =>
    match schema.inputMembers? type.baseName with
    | some members => acceptsMembers schema members given &&
      givesRequired members (Fields.names given)
    | none => leafAccepts schema type.baseName (.object given)
  | value => leafAccepts schema type.baseName value

/-- Whether a type takes all items of a list. -/
def acceptsItems (schema : Schema) (type : TypeRef) : List Datum → Bool
  | [] => true
  | item :: rest => accepts schema type item && acceptsItems schema type rest

/-- Whether the members of an input take the values given for them; unknown names are refused. -/
def acceptsMembers (schema : Schema) (members : List InputMember) : List (String × Datum) → Bool
  | [] => true
  | (name, value) :: rest =>
    match members.find? fun m => m.name = name with
    | some m => accepts schema m.type value && acceptsMembers schema members rest
    | none => false

end

end ClassApi.Schema

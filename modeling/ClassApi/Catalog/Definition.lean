import ClassApi.Catalog.Failure
import ClassApi.Json.Basic

/-!
# Class definitions as written

The definitions of a project are a JSON object from class names to definitions. A definition is an
object of fields, or, when it has a member `fields` or `options`, an object that keeps the fields
apart from the options. A field is declared by a type name, by an object of options, or by a list of
declarations; whether the list has the right length is decided later.
-/

namespace ClassApi

/-- The options of a field declared by an object. -/
structure FieldOptions where
  /-- The name of the field's type. -/
  typeName : Option String
  /-- The class a relation points at. -/
  reference : Option String
  /-- Whether replacing an object requires the field. -/
  required : Bool
  /-- A description for readers of the schema. -/
  description : Option String
deriving DecidableEq, Repr

/-- A field declaration. -/
inductive FieldSpec where
  /-- A type name. -/
  | token (name : String)
  /-- An object of options. -/
  | detailed (options : FieldOptions)
  /-- A list of declarations. -/
  | list (items : List FieldSpec)

namespace FieldOptions

/-- An optional text member: missing and `null` mean none, anything but a text is an error. -/
def text? (members : Fields Json) (name : String) : Option (Option String) :=
  match Fields.get? members name with
  | none => some none
  | some .null => some none
  | some (.string s) => some (some s)
  | some _ => none

/-- An optional truth value, false when missing; anything else is an error. -/
def flag? (members : Fields Json) (name : String) : Option Bool :=
  match Fields.get? members name with
  | none => some false
  | some (.bool b) => some b
  | some _ => none

/-- The options in a JSON object; members with other names are ignored. -/
def ofMembers (members : Fields Json) : Option FieldOptions := do
  let typeName ← text? members "type"
  let reference ← text? members "ref"
  let required ← flag? members "required"
  let description ← text? members "description"
  return { typeName, reference, required, description }

end FieldOptions

namespace FieldSpec

mutual

/-- The declaration a JSON value stands for, when it has one of the accepted shapes. -/
def ofJson : Json → Option FieldSpec
  | .string name => some (token name)
  | .array items => (ofItems items).map list
  | .object members => (FieldOptions.ofMembers members).map detailed
  | _ => none

/-- The declarations of list items. -/
def ofItems : List Json → Option (List FieldSpec)
  | [] => some []
  | item :: rest => do
    let spec ← ofJson item
    let specs ← ofItems rest
    return spec :: specs

end

end FieldSpec

/-- A class as written. -/
structure ClassDefinition where
  /-- The name. -/
  name : String
  /-- The plural, when one is given. -/
  plural : Option String
  /-- The fields in order. -/
  fields : Fields FieldSpec

namespace ClassDefinition

/-- Reads the field declarations of a class. -/
def readFields (className : String) : Fields Json → Except DefinitionError (Fields FieldSpec)
  | [] => .ok []
  | (field, json) :: rest =>
    match FieldSpec.ofJson json with
    | none => .error (.unparsableField field className)
    | some spec => (readFields className rest).map fun specs => (field, spec) :: specs

/-- The plural among the options of a structured definition. -/
def readPlural (members : Fields Json) : Option String := do
  let options ← Fields.get? members "options"
  let plural ← options.member? "plural"
  plural.asString?

/-- The field members of a definition. -/
def fieldMembers (name : String) (members : Fields Json) : Except DefinitionError (Fields Json) :=
  match Fields.get? members "fields" with
  | none => .ok []
  | some .null => .ok []
  | some (.object fields) => .ok fields
  | some _ => .error (.invalidFormat s!"fields of class \"{name}\" must be an object")

/-- Reads one class. -/
def ofJson (name : String) : Json → Except DefinitionError ClassDefinition
  | .object members =>
    if Fields.contains members "fields" || Fields.contains members "options" then do
      let fields ← fieldMembers name members
      let fields ← readFields name fields
      return { name, plural := readPlural members, fields }
    else do
      let fields ← readFields name members
      return { name, plural := none, fields }
  | _ => .error (.invalidFormat s!"class \"{name}\" must be an object")

/-- Reads classes in order; the first failure counts. -/
def readAll : Fields Json → Except DefinitionError (List ClassDefinition)
  | [] => .ok []
  | (name, json) :: rest => do
    let definition ← ofJson name json
    let definitions ← readAll rest
    return definition :: definitions

/-- Reads the definitions of a project; `null` means none. -/
def listOfJson : Json → Except DefinitionError (List ClassDefinition)
  | .null => .ok []
  | .object members => readAll members
  | _ => .error (.invalidFormat "class definitions must be an object")

end ClassDefinition

end ClassApi

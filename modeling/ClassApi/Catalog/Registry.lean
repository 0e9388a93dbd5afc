import ClassApi.Catalog.Definition
import ClassApi.Catalog.Field

/-!
# The class registry

Class definitions are checked and brought into a normal form. All names are collected first, so a
relation may point at a class that is declared later, or at its own class, or at the built-in file
class. Class names are compared without regard to case.
-/

namespace ClassApi

/-- A class in normal form. -/
structure ClassInfo where
  /-- The capitalised name, which is also the name of the object type. -/
  name : String
  /-- The plural, when one is given. -/
  plural : Option String
  /-- The fields in order. -/
  fields : List ClassField
deriving DecidableEq, Repr

namespace ClassInfo

/-- The plural for readers. -/
def pluralName (c : ClassInfo) : String :=
  c.plural.getD (c.name ++ "s")

/-- The capitalised plural inside generated type names. -/
def pluralTypeName (c : ClassInfo) : String :=
  Naming.upperFirst c.pluralName

/-- The name of the query for one object. -/
def singleQueryName (c : ClassInfo) : String :=
  Naming.camelCase c.name

/-- The name of the query for many objects. -/
def listQueryName (c : ClassInfo) : String :=
  Naming.camelCase c.pluralName

/-- The field with a name. -/
def field? (c : ClassInfo) (name : String) : Option ClassField :=
  c.fields.find? fun f => f.name = name

/-- The relation fields, each with the class it points at. -/
def relations (c : ClassInfo) : List (String × String) :=
  c.fields.filterMap fun f => f.target?.map fun target => (f.name, target)

/-- The names of the fields objects can be sorted by: those with a single value that is no
reference. -/
def sortableNames (c : ClassInfo) : List String :=
  c.fields.filterMap fun f =>
    match f.kind with
    | .scalar _ => some f.name
    | _ => none

/-- The fields objects can be filtered by: those with a single value. -/
def filterableFields (c : ClassInfo) : List ClassField :=
  c.fields.filter fun f => !f.isList

end ClassInfo

/-- The name of the built-in class of stored files. -/
def fileClass : String := "File"

/-- The classes of a project in the order of their declaration. -/
structure Registry where
  /-- The classes. -/
  classes : List ClassInfo

namespace Registry

/-- The prefix no class or field name of a project may have. -/
def reservedPrefix : String := "_"

/-- Field names that belong to the system or to the form of definitions. -/
def reservedFields : List String :=
  ["id", "_id", "mongoId", "createdAt", "updatedAt", "clientMutationId", "options", "fields"]

/-- Refuses reserved class names. -/
def checkClassName (name : String) : Except DefinitionError Unit :=
  if name.startsWith reservedPrefix then .error (.reservedClassPrefix reservedPrefix name)
  else if name.toLower = fileClass.toLower then .error (.reservedClassName name)
  else .ok ()

/-- Collects the names a relation may point at, each under its lowercase form; the file class is
among them. -/
def collectTargets : List ClassDefinition → Fields String → Except DefinitionError (Fields String)
  | [], targets => .ok targets
  | definition :: rest, targets =>
    match checkClassName definition.name with
    | .error e => .error e
    | .ok () =>
      let name := Naming.upperFirst definition.name
      let key := lowerText name
      if Fields.contains targets key then
        .error (.invalidFormat s!"class \"{name}\" is declared twice")
      else collectTargets rest (Fields.insert targets key name)

/-- What a declaration says about a single value. -/
structure Element where
  /-- The kind of the value. -/
  scalar : ScalarKind
  /-- The class a relation points at. -/
  target : Option String
  /-- Whether a replacement must give a value. -/
  required : Bool
  /-- A description. -/
  description : Option String

/-- Resolves the declaration of a single value. -/
def resolveElement (targets : Fields String) (unparsable : DefinitionError) :
    FieldSpec → Except DefinitionError Element
  | .token name =>
    match ScalarKind.ofToken name with
    | some .relation => .error .missingRef
    | some kind => .ok ⟨kind, none, false, none⟩
    | none => .error unparsable
  | .detailed options =>
    match options.typeName.bind ScalarKind.ofToken with
    | none => .error unparsable
    | some .relation =>
      match options.reference with
      | none => .error .missingRef
      | some reference =>
        match Fields.get? targets (lowerText reference) with
        | none => .error (.missingClass reference)
        | some target => .ok ⟨.relation, some target, options.required, options.description⟩
    | some kind => .ok ⟨kind, none, options.required, options.description⟩
  | .list _ => .error unparsable

/-- The shape of a field, from its element and from whether it is a list. -/
def kindOf (element : Element) (isList : Bool) : FieldKind :=
  match element.target, isList with
  | none, false => .scalar element.scalar
  | none, true => .list element.scalar
  | some target, false => .relation target
  | some target, true => .relationList target

/-- Checks a field name and resolves its declaration. -/
def resolveField (targets : Fields String) (className rawName : String) (spec : FieldSpec) :
    Except DefinitionError ClassField := do
  let name := Naming.camelCase rawName
  if reservedFields.contains name then throw (.reservedField name className)
  if rawName.startsWith reservedPrefix then
    throw (.reservedFieldPrefix reservedPrefix rawName className)
  let unparsable := DefinitionError.unparsableField rawName className
  let (element, isList) ←
    match spec with
    | .list [item] => (resolveElement targets unparsable item).map fun e => (e, true)
    | .list _ => .error .arrayLength
    | spec => (resolveElement targets unparsable spec).map fun e => (e, false)
  return { name, kind := kindOf element isList, required := element.required
           description := element.description }

/-- Resolves fields in order. -/
def resolveFields (targets : Fields String) (className : String) :
    Fields FieldSpec → Except DefinitionError (List ClassField)
  | [] => .ok []
  | (name, spec) :: rest => do
    let f ← resolveField targets className name spec
    let fs ← resolveFields targets className rest
    return f :: fs

/-- Brings one class into normal form. -/
def resolveClass (targets : Fields String) (definition : ClassDefinition) :
    Except DefinitionError ClassInfo := do
  let name := Naming.upperFirst definition.name
  let fields ← resolveFields targets name definition.fields
  let info : ClassInfo := { name, plural := definition.plural, fields }
  if info.singleQueryName = info.listQueryName then throw (.nameCollision name)
  return info

/-- Brings classes into normal form, in order. -/
def resolveClasses (targets : Fields String) :
    List ClassDefinition → Except DefinitionError (List ClassInfo)
  | [] => .ok []
  | definition :: rest => do
    let info ← resolveClass targets definition
    let infos ← resolveClasses targets rest
    return info :: infos

/-- Checks class definitions and brings them into normal form. -/
def ofDefinitions (definitions : List ClassDefinition) : Except DefinitionError Registry := do
  let targets ← collectTargets definitions [(lowerText fileClass, fileClass)]
  let classes ← resolveClasses targets definitions
  return ⟨classes⟩

/-- Reads and checks the definitions of a project. -/
def ofJson (definitions : Json) : Except DefinitionError Registry := do
  ofDefinitions (← ClassDefinition.listOfJson definitions)

/-- The class with a name, without regard to case. -/
def get? (r : Registry) (name : String) : Option ClassInfo :=
  let key := lowerText name
  r.classes.find? fun c => lowerText c.name = key

/-- The declared form of a class name, the file class included. -/
def canonicalName? (r : Registry) (name : String) : Option String :=
  if name.toLower = fileClass.toLower then some fileClass else (r.get? name).map ClassInfo.name

end Registry

end ClassApi

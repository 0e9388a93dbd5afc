import ClassApi.Language.Expansion
import ClassApi.Language.Input
import ClassApi.Language.Reader

/-!
# Validation

A request is executed only if it fits the schema: fields exist, arguments and variables have values
of their types, fragments apply where they stand, and choices that are answered under one name ask
for the same thing. Nothing of a request that does not fit is executed.
-/

namespace ClassApi

namespace Schema

/-- The arguments and the type of a field of a type. -/
def fieldSignature? (schema : Schema)
    (typeName fieldName : String) : Option (List InputMember × TypeRef) :=
  match schema.type? typeName with
  | some (.object type) => (type.field? fieldName).map fun f => (f.arguments, f.type)
  | some (.interface _ fields) =>
    (fields.find? fun f => f.name = fieldName).map fun f => ([], f.type)
  | _ => none

/-- Whether the type with a name has fields to select. -/
def isComposite (schema : Schema) (typeName : String) : Bool :=
  match schema.type? typeName with
  | some type => type.isComposite
  | none => false

/-- Whether objects of one type may be of another: the types are the same, or one is an interface of
the other. -/
def overlap (schema : Schema) (a b : String) : Bool :=
  let implements := fun object interface =>
    match schema.type? object with
    | some (.object type) => type.interfaces.contains interface
    | _ => false
  a == b || implements a b || implements b a

end Schema

namespace Language

/-- The field that answers the name of the type of an object. -/
def typenameField : String := "__typename"

/-- The argument of both directives. -/
def conditionArgument : InputMember :=
  .plain "if" (.nonNull (.named "Boolean"))

/-- Whether directives are known and given once each. -/
def directivesFit (directives : List Directive) : Bool :=
  let names := directives.map Directive.name
  names.all ["skip", "include"].contains && (Fields.firstRepeated names).isNone

mutual

/-- Whether a choice fits a type: fields exist and select exactly if there is something to select,
groups apply to objects of the type, directives are known. -/
def fits (schema : Schema) (typeName : String) : Choice → Bool
  | .field _ name _ directives choices =>
    name == typenameField
      || match schema.fieldSignature? typeName name with
        | some (_, type) =>
          directivesFit directives && schema.isComposite type.baseName == !choices.isEmpty
            && allFit schema type.baseName choices
        | none => false
  | .group none directives choices => directivesFit directives && allFit schema typeName choices
  | .group (some condition) directives choices =>
    directivesFit directives && schema.isComposite condition && schema.overlap typeName condition
      && allFit schema condition choices

/-- Whether all choices fit a type. -/
def allFit (schema : Schema) (typeName : String) : List Choice → Bool
  | [] => true
  | choice :: rest => fits schema typeName choice && allFit schema typeName rest

end

/-- Arguments as they are given, beside those that may be given. -/
structure ArgumentSite where
  /-- The arguments that may be given. -/
  declared : List InputMember
  /-- The arguments that are given. -/
  given : List (String × Literal)

/-- The arguments of directives. -/
def directiveSites (directives : List Directive) : List ArgumentSite :=
  directives.map fun d => ⟨[conditionArgument], d.arguments⟩

mutual

/-- All arguments that are given in a choice. -/
def sites (schema : Schema) (typeName : String) : Choice → List ArgumentSite
  | .field _ name arguments directives choices =>
    if name = typenameField then []
    else
      match schema.fieldSignature? typeName name with
      | some (declared, type) =>
        ⟨declared, arguments⟩ :: directiveSites directives ++ allSites schema type.baseName choices
      | none => []
  | .group condition directives choices =>
    directiveSites directives ++ allSites schema (condition.getD typeName) choices

/-- All arguments that are given in choices. -/
def allSites (schema : Schema) (typeName : String) : List Choice → List ArgumentSite
  | [] => []
  | choice :: rest => sites schema typeName choice ++ allSites schema typeName rest

end

namespace ArgumentSite

/-- The declaration of an argument. -/
def declared? (site : ArgumentSite) (name : String) : Option InputMember :=
  site.declared.find? fun m => m.name = name

/-- Whether a literal has a value that a type takes. A literal with a variable that has no value
passes here. -/
def literalFits (schema : Schema) (variableValues : Fields Datum) (type : TypeRef)
    (literal : Literal) : Bool :=
  match literal.value? (Fields.get? variableValues) with
  | some value => schema.accepts type value
  | none => true

/-- Whether the arguments are known, given once each, of the right types, and complete. -/
def fits (schema : Schema) (variableValues : Fields Datum) (site : ArgumentSite) : Bool :=
  let names := site.given.map Prod.fst
  (Fields.firstRepeated names).isNone && Schema.givesRequired site.declared names
    && site.given.all fun (name, literal) =>
      match site.declared? name with
      | some m => literalFits schema variableValues m.type literal
      | none => false

/-- The variables that are referred to. -/
def variableNames (site : ArgumentSite) : List String :=
  site.given.flatMap fun (_, literal) => literal.variableNames

end ArgumentSite

/-- A variable, and the type of the position at which it stands. -/
structure VariableUse where
  /-- The name of the variable. -/
  name : String
  /-- The type of the position. -/
  position : TypeRef

mutual

/-- The variables in a literal at a position of a type. -/
def uses (schema : Schema) (type : TypeRef) : Literal → List VariableUse
  | .ofVariable name => [⟨name, type⟩]
  | .list items =>
    match type.item? with
    | some item => itemUses schema item items
    | none => []
  | .object members =>
    match type.item? with
    | some _ => []
    | none => memberUses schema ((schema.inputMembers? type.baseName).getD []) members
  | _ => []

/-- The variables in list items. -/
def itemUses (schema : Schema) (type : TypeRef) : List Literal → List VariableUse
  | [] => []
  | item :: rest => uses schema type item ++ itemUses schema type rest

/-- The variables in the members of an input. -/
def memberUses (schema : Schema) (declared : List InputMember) :
    List (String × Literal) → List VariableUse
  | [] => []
  | (name, literal) :: rest =>
    (match declared.find? fun m => m.name = name with
      | some m => uses schema m.type literal
      | none => [])
      ++ memberUses schema declared rest

end

/-- The variables in arguments, with the types of their positions. -/
def ArgumentSite.uses (schema : Schema) (site : ArgumentSite) : List VariableUse :=
  site.given.flatMap fun (name, literal) =>
    match site.declared? name with
    | some m => Language.uses schema m.type literal
    | none => []

/-- A field as it is answered. -/
structure Answered where
  /-- The condition of the innermost group the field stands in. -/
  condition : Option String
  /-- The name it is answered under. -/
  key : String
  /-- The name of the field. -/
  name : String
  /-- The arguments. -/
  arguments : Fields Literal

mutual

/-- The fields a choice answers into the object it is chosen from. -/
def answered (condition : Option String) : Choice → List Answered
  | .field label name arguments _ _ => [⟨condition, Choice.responseKey label name, name, arguments⟩]
  | .group condition _ choices => allAnswered condition choices

/-- The fields that choices answer into the object they are chosen from. -/
def allAnswered (condition : Option String) : List Choice → List Answered
  | [] => []
  | choice :: rest => answered condition choice ++ allAnswered condition rest

end

/-- Whether two fields that are answered under one name ask for the same. -/
def Answered.agree (a b : Answered) : Bool :=
  a.condition != b.condition || a.key != b.key
    || (a.name == b.name && a.arguments.length == b.arguments.length &&
      Literal.sameMembers a.arguments b.arguments)

/-- Whether every two of some fields agree. -/
def agreeAll : List Answered → Bool
  | [] => true
  | a :: rest => rest.all a.agree && agreeAll rest

mutual

/-- Whether choices that are answered under one name agree, in the selections of a choice. -/
def merges : Choice → Bool
  | .field _ name _ _ choices =>
    name == typenameField || (agreeAll (allAnswered none choices) && allMerge choices)
  | .group _ _ choices => agreeAll (allAnswered none choices) && allMerge choices

/-- Whether choices that are answered under one name agree, in the selections of all choices. -/
def allMerge : List Choice → Bool
  | [] => true
  | choice :: rest => merges choice && allMerge rest

end

end Language

namespace VariableDefinition

/-- Whether a variable is of a type for input, and its default value of that type. Only variables
that may be `null` have default values. -/
def fits (schema : Schema) (v : VariableDefinition) : Bool :=
  (match schema.type? v.type.baseName with
    | some type => type.isInput
    | none => false)
    && match v.default with
      | some value => !v.type.isNonNull && schema.accepts v.type value
      | none => true

/-- The type of the values of a variable: a default value takes the place of `null`. -/
def valueType (v : VariableDefinition) : TypeRef :=
  if v.default.isSome && !v.type.isNonNull then .nonNull v.type else v.type

end VariableDefinition

namespace Language

/-- Whether all variables of an operation are known, used, and stand where values of their types may
stand. -/
def variablesFit (schema : Schema) (definitions : List VariableDefinition)
    (given : List ArgumentSite) : Bool :=
  let names := definitions.map VariableDefinition.name
  let referred := given.flatMap ArgumentSite.variableNames
  (Fields.firstRepeated names).isNone
    && definitions.all (fun v => v.fits schema)
    && referred.all names.contains
    && names.all referred.contains
    && (given.flatMap fun site => site.uses schema).all fun use =>
      match definitions.find? fun v => v.name = use.name with
      | some v => use.position.takes v.valueType
      | none => false

/-- The name of the type that an operation selects from. -/
def rootName (schema : Schema) : OperationKind → Option String
  | .query => some Schema.queryRoot
  | .mutation => if schema.hasMutation then some Schema.mutationRoot else none
  | .subscription => none

/-- Whether the choices of an operation fit the schema, given the values of variables. -/
def operationFits (schema : Schema) (variableValues : Fields Datum) (operation : Operation)
    (choices : List Choice) : Bool :=
  match rootName schema operation.kind with
  | none => false
  | some root =>
    let given := allSites schema root choices
    operation.directives.isEmpty && allFit schema root choices
      && agreeAll (allAnswered none choices) && allMerge choices
      && given.all (ArgumentSite.fits schema variableValues)
      && variablesFit schema operation.variableDefinitions given

/-- An operation with its fragments put in place. -/
structure Executable where
  /-- The operation. -/
  operation : Operation
  /-- Its choices. -/
  choices : List Choice

/-- Expands the operations of a request and checks each one. -/
def checkOperations (schema : Schema) (variableValues : Fields Datum) (tree : RequestTree) :
    List Operation → Option (List Executable)
  | [] => some []
  | operation :: rest => do
    let choices ← expand tree depthLimit operation.selections
    if operationFits schema variableValues operation choices then
      let others ← checkOperations schema variableValues tree rest
      return ⟨operation, choices⟩ :: others
    else none

/-- Whether all fragments are used; they have no directives of their own. -/
def fragmentsFit (tree : RequestTree) : Bool :=
  let used := usedFragments tree
  tree.fragments.all fun f => used.contains f.name && f.directives.isEmpty

/-- The operation that is meant: the one with the name that is given, or the only one. -/
def chooseOperation (operations : List Executable) (name : Option String) : Option Executable :=
  match name, operations with
  | some name, operations => operations.find? fun e => e.operation.name = some name
  | none, [operation] => some operation
  | none, _ => none

/-- The operation of a request text that is executed, provided the whole text fits the schema. -/
def prepare (schema : Schema) (text : String) (variableValues : Fields Datum)
    (name : Option String) :
    Option Executable := do
  let tree ← read text
  let operations ← checkOperations schema variableValues tree tree.operations
  if fragmentsFit tree then chooseOperation operations name else none

end Language

end ClassApi

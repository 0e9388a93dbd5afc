import ClassApi.Execution.Resolution
import ClassApi.Execution.Response
import ClassApi.Language.Validation

/-!
# Execution

A request is executed choice by choice, in order; an object is answered before the next choice is
looked at, so what one mutation writes is seen by everything after it. A field that fails is left
out of its object, and its failure is noted.
-/

namespace ClassApi

/-- What stays the same while a request is executed. -/
structure Environment where
  /-- The schema. -/
  schema : Schema
  /-- The project and the permission of the request. -/
  context : RequestContext
  /-- The variables of the operation. -/
  definitions : List VariableDefinition
  /-- The values that are given for variables. -/
  variableValues : Fields Datum

namespace Environment

/-- The value of a variable: the one given, else its default, else `null` if that may be. -/
def valueOf? (env : Environment) (name : String) : Option Datum := do
  let v ← env.definitions.find? fun v => v.name = name
  match Fields.get? env.variableValues name with
  | some value => return value
  | none =>
    match v.default with
    | some value => return value
    | none => if v.type.isNonNull then none else return .null

/-- The values of arguments, in the order in which they are given. -/
def arguments (env : Environment) : List (String × Literal) → Except ExecutionError (Fields Datum)
  | [] => .ok []
  | (name, literal) :: rest =>
    match literal.value? env.valueOf? with
    | some value => (env.arguments rest).map ((name, value) :: ·)
    | none =>
      let missing := literal.variableNames.find? fun name => (env.valueOf? name).isNone
      .error (.unknownVariable (missing.getD name))

/-- Whether a directive lets a choice stand. Variables count as they are given; one that is not
given is no truth value, and that counts as false. -/
def directiveKeeps (env : Environment) (d : Directive) : Bool :=
  let given := fun name => some ((Fields.get? env.variableValues name).getD .null)
  let holds :=
    match (Fields.get? d.arguments "if").bind (Literal.value? given) with
    | some (.bool b) => b
    | _ => false
  match d.name with
  | "skip" => !holds
  | "include" => holds
  | _ => true

/-- Whether a choice stands. -/
def keeps (env : Environment) (choice : Choice) : Bool :=
  choice.directives.all env.directiveKeeps

end Environment

namespace Execution

/-- Answers a field under a key: its value, or nothing and a failure. -/
def answerField (env : Environment) (answer : ObjectAnswer) (f : FieldDefinition) (key : String)
    (arguments : List (String × Literal)) (source : Source)
    (p : Progress) : List (String × Datum) × Progress :=
  match env.arguments arguments with
  | .error e => ([], p.fail e)
  | .ok args =>
    match f.resolver.run env.context p.store source args with
    | (.error e, store) => ([], { p with store }.fail (.resolve e))
    | (.ok value, store) =>
      match Completion.complete env.schema answer f.type value { p with store } with
      | (.error e, p) => ([], p.fail (.completion e))
      | (.ok datum, p) => ([(key, datum)], p)

/-- Whether choices of a group apply to objects of a type. -/
def applies (typeName : String) (type : ObjectType) : Option String → Bool
  | none => true
  | some condition => condition = typeName || type.interfaces.contains condition

mutual

/-- The answers to a choice. -/
def answerChoice (env : Environment) (typeName : String) (type : ObjectType) (source : Source) :
    Choice → Progress → List (String × Datum) × Progress
  | .field label name arguments _ choices, p =>
    let key := Choice.responseKey label name
    if name = Language.typenameField then ([(key, .string typeName)], p)
    else
      match type.field? name with
      | none => ([], p)
      | some f =>
        let answer : ObjectAnswer := fun typeName type source p =>
          let (answers, p) := answerChoices env typeName type source choices p
          (Answers.toDatum answers, p)
        answerField env answer f key arguments source p
  | .group condition _ choices, p =>
    if applies typeName type condition then answerChoices env typeName type source choices p
    else ([], p)

/-- The answers to choices, in order. -/
def answerChoices (env : Environment) (typeName : String) (type : ObjectType) (source : Source) :
    List Choice → Progress → List (String × Datum) × Progress
  | [], p => ([], p)
  | choice :: rest, p =>
    if env.keeps choice then
      let (answers, p) := answerChoice env typeName type source choice p
      let (others, p) := answerChoices env typeName type source rest p
      (answers ++ others, p)
    else answerChoices env typeName type source rest p

end

/-- Answers an operation whose choices fit the schema. -/
def answerOperation (env : Environment) (root : String) (choices : List Choice)
    (s : Store) : Response × Store :=
  match env.schema.object? root with
  | none => (.refused, s)
  | some type =>
    let (answers, p) := answerChoices env root type .root choices ⟨s, []⟩
    (.ofExecution (Answers.toDatum answers) p.errors, p.store)

end Execution

/-- A request. -/
structure Request where
  /-- The text. -/
  text : String
  /-- The values of variables. -/
  variableValues : Fields Datum
  /-- The name of the operation that is meant. -/
  operationName : Option String
  /-- Whether mutations are allowed. -/
  allowMutation : Bool

namespace Request

/-- The values of variables in JSON; what is no object gives none. -/
def variablesOfJson (json : Json) : Fields Datum :=
  ((Datum.ofJson json).asObject?).getD []

/-- Executes a request against a schema and a store. A request that does not fit the schema is
refused, and the store is left as it is. -/
def execute (r : Request) (schema : Schema) (project : Project) (s : Store) : Response × Store :=
  match Language.prepare schema r.text r.variableValues r.operationName with
  | none => (.refused, s)
  | some ⟨operation, choices⟩ =>
    match Language.rootName schema operation.kind with
    | none => (.refused, s)
    | some root =>
      let context := { project, allowMutation := r.allowMutation }
      let env :=
        { schema, context, definitions := operation.variableDefinitions
          variableValues := r.variableValues }
      Execution.answerOperation env root choices s

end Request

end ClassApi

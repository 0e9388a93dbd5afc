import ClassApi.Execution.Source
import ClassApi.Schema.Definition

/-!
# Completion

The value that a resolver gives is brought into the form its type asks for. Lists are completed item
by item; where the type is one of objects, the choices of the field are answered, which is left to a
function that is passed in.
-/

namespace ClassApi

/-- Why the value of a field does not fit its type. -/
inductive CompletionError where
  /-- A type without `null` has no value. -/
  | missingValue
  /-- The value is no list. -/
  | notAList
  /-- An object stands where the scalar should stand. -/
  | notAScalar (typeName : String)
  /-- An object stands behind an interface without the name of its type. -/
  | untypedObject (interface : String)
  /-- The type of the object does not have the interface. -/
  | notAnImplementation (typeName interface : String)
deriving DecidableEq, Repr

/-- The text shown to callers. -/
def CompletionError.message : CompletionError → String
  | missingValue => "internal: non-null types require a return value"
  | notAList => "internal: expects an array"
  | notAScalar typeName =>
    s!"internal: invalid value for scalar \"{typeName}\", expected \"FieldValue::Value\""
  | untypedObject interface =>
    s!"internal: invalid value for interface \"{interface}\", expected \"FieldValue::WithType\""
  | notAnImplementation typeName interface =>
    s!"internal: object \"{typeName}\" does not implement interface \"{interface}\""

/-- Why a field has no value. -/
inductive ExecutionError where
  /-- The resolver failed. -/
  | resolve (cause : ResolveError)
  /-- The value does not fit the type. -/
  | completion (cause : CompletionError)
  /-- A variable that must not be `null` has no value. -/
  | unknownVariable (name : String)
deriving DecidableEq, Repr

namespace ExecutionError

/-- The text shown to callers. -/
def message : ExecutionError → String
  | resolve cause => cause.message
  | completion cause => cause.message
  | unknownVariable name => s!"Variable {name} is not defined."

/-- Whether the field itself failed, not merely the request for it. -/
def isOwn : ExecutionError → Bool
  | unknownVariable _ => false
  | _ => true

end ExecutionError

/-- How far a request has come: the store as it is, and the failures so far. -/
structure Progress where
  /-- The store. -/
  store : Store
  /-- The failures, in the order in which they arose. -/
  errors : List ExecutionError

namespace Progress

/-- Notes a failure. -/
def fail (p : Progress) (e : ExecutionError) : Progress :=
  { p with errors := p.errors ++ [e] }

end Progress

/-- How objects are answered: from the name of the type, the type, and what the fields are read
from. -/
abbrev ObjectAnswer :=
  String → ObjectType → Source → Progress → Datum × Progress

namespace Completion

/-- What the fields of a value are read from; values of the query language have no fields of their
own. -/
def sourceOf : FieldValue → Source
  | .object source => source
  | .typed _ source => source
  | _ => .root

/-- Completes a value for a type with a name. -/
def completeNamed (schema : Schema) (answer : ObjectAnswer) (typeName : String) (value : FieldValue)
    (p : Progress) : Except CompletionError Datum × Progress :=
  match schema.type? typeName, value with
  | some (.object type), value =>
    let (datum, p) := answer typeName type (sourceOf value) p
    (.ok datum, p)
  | some (.interface _ _), .typed objectName source =>
    match schema.object? objectName with
    | some type =>
      if type.interfaces.contains typeName then
        let (datum, p) := answer objectName type source p
        (.ok datum, p)
      else (.error (.notAnImplementation objectName typeName), p)
    | none => (.error (.notAnImplementation objectName typeName), p)
  | some (.interface _ _), _ => (.error (.untypedObject typeName), p)
  | _, .datum datum => (.ok datum, p)
  | _, _ => (.error (.notAScalar typeName), p)

/-- Completes the items of a list; the first failure is that of the list. -/
def completeItems (complete : FieldValue → Progress → Except CompletionError Datum × Progress) :
    List FieldValue → Progress → Except CompletionError (List Datum) × Progress
  | [], p => (.ok [], p)
  | value :: rest, p =>
    match complete value p with
    | (.error e, p) => (.error e, p)
    | (.ok datum, p) =>
      let (data, p) := completeItems complete rest p
      (data.map (datum :: ·), p)

/-- The items of a value that is a list. -/
def itemsOf : FieldValue → Option (List FieldValue)
  | .objects sources => some (sources.map .object)
  | .datum (.list items) => some (items.map .datum)
  | _ => none

/-- Completes a value that is there. -/
def completeValue (schema : Schema) (answer : ObjectAnswer) :
    TypeRef → FieldValue → Progress → Except CompletionError Datum × Progress
  | .named typeName, value, p => completeNamed schema answer typeName value p
  | .nonNull type, value, p => completeValue schema answer type value p
  | .list type, value, p =>
    match itemsOf value with
    | none => (.error .notAList, p)
    | some items =>
      let (data, p) := completeItems (completeValue schema answer type) items p
      (data.map .list, p)

/-- Completes a value that may be missing. -/
def complete (schema : Schema) (answer : ObjectAnswer) (type : TypeRef) (value : Option FieldValue)
    (p : Progress) : Except CompletionError Datum × Progress :=
  match value with
  | some value => completeValue schema answer type value p
  | none => (if type.isNonNull then .error .missingValue else .ok .null, p)

end Completion

end ClassApi

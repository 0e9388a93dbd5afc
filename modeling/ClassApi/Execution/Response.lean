import ClassApi.Datum
import ClassApi.Execution.Completion

/-!
# Responses

The answers to the choices of a request are merged by name: objects member by member, lists item by
item; of other values the first one is kept.
-/

namespace ClassApi

namespace Answers

mutual

/-- Merges a value into one of the same name. -/
def mergeValue : Datum → Datum → Datum
  | .object members, .object further => .object (mergeMembers members further)
  | .list items, .list further => .list (mergeItems items further)
  | value, _ => value

/-- Merges members one after the other into those of an object. -/
def mergeMembers (members : Fields Datum) : List (String × Datum) → Fields Datum
  | [] => members
  | (name, value) :: rest =>
    match Fields.get? members name with
    | some old => mergeMembers (Fields.insert members name (mergeValue old value)) rest
    | none => mergeMembers (Fields.insert members name value) rest

/-- Merges the objects among items. -/
def mergeItems (items : List Datum) : List Datum → List Datum
  | [] => items
  | further :: rest =>
    match items with
    | [] => []
    | item :: items =>
      (match item, further with
        | .object members, .object more => .object (mergeMembers members more)
        | item, _ => item)
        :: mergeItems items rest

end

/-- The object that answers make; without any answer there is none. -/
def toDatum (answers : List (String × Datum)) : Datum :=
  if answers.isEmpty then .null else .object (mergeMembers [] answers)

end Answers

/-- What a request is answered with. -/
inductive Response where
  /-- The request could not be executed. -/
  | refused
  /-- The data, and the texts of the failures in their order. -/
  | answered (data : Datum) (errors : List String)

namespace Response

/-- The response to a request that was executed. If there is no data and no field failed on its own
account, the request counts as refused. -/
def ofExecution (data : Datum) (errors : List ExecutionError) : Response :=
  if data.isNull && !errors.any ExecutionError.isOwn then refused
  else answered data ((errors.map ExecutionError.message).mergeSort fun a b => a ≤ b)

/-- The JSON of a failure. -/
def failureJson (message : String) : Json :=
  .object [("message", .string message)]

/-- The JSON of a response; failures are left out when there are none. -/
def toJson : Response → Json
  | refused =>
    .object [("data", .null), ("errors", .array [failureJson "The request cannot be executed"])]
  | answered data [] => .object [("data", data.toJson)]
  | answered data errors =>
    .object [("data", data.toJson), ("errors", .array (errors.map failureJson))]

/-- Whether something failed. -/
def isFailure : Response → Bool
  | refused => true
  | answered _ errors => !errors.isEmpty

end Response

end ClassApi

import ClassApi.Document.Path
import ClassApi.Store.Failure

/-!
# Updates and projections

An update is a document of operators that are applied in order. Application may fail on the way;
what was applied before the failure stays applied, so the result is the changed document together
with the failure. A projection selects paths of a document.
-/

namespace ClassApi

namespace Update

/-- Writes every value of an operator's argument at its path. -/
def setAll (doc fields : Document) : Document :=
  fields.foldl (fun doc field => Path.set doc field.1 field.2) doc

/-- Drops what is at every path of an operator's argument. -/
def unsetAll (doc fields : Document) : Document :=
  fields.foldl (fun doc field => Path.unset doc field.1) doc

/-- Applies the operators of an update in order; the second part is the failure that ended it. -/
def apply (doc : Document) : Document → Document × Option StoreError
  | [] => (doc, none)
  | (operator, .document fields) :: rest =>
    match operator with
    | "$set" => apply (setAll doc fields) rest
    | "$unset" => apply (unsetAll doc fields) rest
    | other => (doc, some (.unsupportedOperator other))
  | (operator, _) :: _ => (doc, some (.unsupportedOperator operator))

end Update

namespace Projection

/-- Copies the value at one path, unless the path is the id or is not included. -/
def copy (doc projected : Document) (path : String) (included : Value) : Document :=
  if path = "_id" || !included.truthy then projected
  else
    match Path.lookup doc path with
    | some value => Path.set projected path value
    | none => projected

/-- Whether a projection keeps the id; it does unless it says otherwise. -/
def keepsId (projection : Document) : Bool :=
  match Fields.get? projection "_id" with
  | some value => value.truthy
  | none => true

/-- The parts of a document that a projection includes. -/
def apply (projection doc : Document) : Document :=
  let start : Document :=
    if keepsId projection then
      match Fields.get? doc "_id" with
      | some id => [("_id", id)]
      | none => []
    else []
  projection.foldl (fun projected part => copy doc projected part.1 part.2) start

end Projection

end ClassApi

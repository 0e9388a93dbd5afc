import ClassApi.Document.Compare
import ClassApi.Document.Path

/-!
# Sorting documents

A sort document names paths and directions; a negative number is descending. Documents are inserted
one by one behind those that are not greater, so the sort is stable.
-/

namespace ClassApi.Sorting

/-- Whether a direction is descending. -/
def isDescending (direction : Value) : Bool :=
  match direction.asFloat? with
  | some x => x < 0
  | none => false

/-- The order of two documents under some keys: the first difference counts. -/
def compareBy (a b : Document) : List (String × Value) → Ordering
  | [] => .eq
  | (path, direction) :: rest =>
    let order := Value.orderOptional (Path.lookup a path) (Path.lookup b path)
    (if isDescending direction then order.swap else order).then (compareBy a b rest)

/-- Inserts a document into a list that is sorted from the greatest down, before those it is not
less than. -/
def insertBack (keys : Document) (doc : Document) : List Document → List Document
  | [] => [doc]
  | greatest :: rest =>
    if compareBy doc greatest keys = .lt then greatest :: insertBack keys doc rest
    else doc :: greatest :: rest

/-- Sorts documents by the keys. -/
def sort (keys : Document) (docs : List Document) : List Document :=
  (docs.foldl (fun sorted doc => insertBack keys doc sorted) []).reverse

end ClassApi.Sorting

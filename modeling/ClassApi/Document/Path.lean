import ClassApi.Document.Value

/-!
# Dotted paths

A path names a place inside nested documents, `data.profile.city`. Paths are split at every dot, so
an empty segment is a member with an empty name; lists are not entered.
-/

namespace ClassApi.Path

/-- Splits characters at every dot; `current` is the segment being read, last character first. -/
def splitDots (current : List Char) : List Char → List String
  | [] => [String.ofList current.reverse]
  | c :: rest =>
    if c = '.' then String.ofList current.reverse :: splitDots [] rest
    else splitDots (c :: current) rest

/-- The segments of a path; there is at least one. -/
def segments (path : String) : List String :=
  splitDots [] path.toList

/-- The value at some segments. -/
def lookupSegments (doc : Document) : List String → Option Value
  | [] => none
  | [name] => Fields.get? doc name
  | name :: rest =>
    match Fields.get? doc name with
    | some (.document inner) => lookupSegments inner rest
    | _ => none

/-- The value at a path. -/
def lookup (doc : Document) (path : String) : Option Value :=
  lookupSegments doc (segments path)

/-- Writes a value at some segments; what stands in the way of a nested document is replaced by
one. -/
def setSegments (doc : Document) (value : Value) : List String → Document
  | [] => doc
  | [name] => Fields.insert doc name value
  | name :: rest =>
    let inner :=
      match Fields.get? doc name with
      | some (.document inner) => inner
      | _ => []
    Fields.insert doc name (.document (setSegments inner value rest))

/-- Writes a value at a path, creating the documents between. -/
def set (doc : Document) (path : String) (value : Value) : Document :=
  setSegments doc value (segments path)

/-- Drops what is at some segments; nothing happens when a document between is missing. -/
def unsetSegments (doc : Document) : List String → Document
  | [] => doc
  | [name] => Fields.remove doc name
  | name :: rest =>
    match Fields.get? doc name with
    | some (.document inner) => Fields.insert doc name (.document (unsetSegments inner rest))
    | _ => doc

/-- Drops what is at a path. -/
def unset (doc : Document) (path : String) : Document :=
  unsetSegments doc (segments path)

end ClassApi.Path

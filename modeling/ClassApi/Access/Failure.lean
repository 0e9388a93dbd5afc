import ClassApi.Ident
import ClassApi.Store.Failure

/-!
# Failures of requests

Why a single field or operation of a request fails. The text of a failure is what callers see among
the errors of the response.
-/

namespace ClassApi

/-- What a resolver expected its parent value to be. -/
inductive ParentKind where
  /-- An object of a class. -/
  | classRecord
  /-- A stored file. -/
  | file
  /-- A page of a list. -/
  | connection
  /-- An item of a page. -/
  | edge
  /-- The description of a page. -/
  | pageInfo
  /-- The result of a mutation. -/
  | payload
  /-- The project. -/
  | project
  /-- The classes of the project. -/
  | projectClasses
deriving DecidableEq, Repr

/-- The name of a kind of parent value. -/
def ParentKind.name : ParentKind → String
  | classRecord => "class record"
  | file => "file"
  | connection => "connection"
  | edge => "edge"
  | pageInfo => "PageInfo"
  | payload => "mutation payload"
  | project => "project"
  | projectClasses => "project classes"

/-- Why a field or operation fails. -/
inductive ResolveError where
  /-- No object of a class answers the request. -/
  | notFound (className : String)
  /-- The object that answers the request is marked as removed. -/
  | removed (className : String)
  /-- No file has the id. -/
  | fileNotFound
  /-- A reference points at nothing. -/
  | missingReference (className id : String)
  /-- Mutations are not allowed in the request. -/
  | mutationNotAllowed (mutation : String)
  /-- A filter holds no regular expression literal. -/
  | invalidRegExp (className field : String)
  /-- A global id names a class that does not exist. -/
  | unknownClass (className : String)
  /-- An argument is out of range. -/
  | invalidArgument (reason : String)
  /-- There is no room for the offset behind a cursor. -/
  | offsetOverflow
  /-- The parent value is of another kind. -/
  | unexpectedParent (expected : ParentKind)
  /-- A text is no id. -/
  | invalidId (data : String)
  /-- An argument that has to be a text is none. -/
  | notAString
  /-- The store failed. -/
  | storage (cause : StoreError)
deriving DecidableEq, Repr

/-- The text shown to callers. -/
def ResolveError.message : ResolveError → String
  | notFound className => s!"Object \"{className}\" not found"
  | removed className => s!"Object \"{className}\" marked as removed"
  | fileNotFound => "File not found"
  | missingReference className id => s!"There is no \"{className}\" with id \"{id}\" !"
  | mutationNotAllowed mutation => s!"Usage of \"{mutation}\" mutation is not allowed"
  | invalidRegExp className field => s!"Invalid RegExp at {className}/{field}"
  | unknownClass className => s!"Unknown class \"{className}\""
  | invalidArgument reason => reason
  | offsetOverflow => "attempt to add with overflow"
  | unexpectedParent expected => "Unexpected parent value for " ++ expected.name
  | invalidId data => invalidIdMessage data
  | notAString => "internal: not a string"
  | storage cause => cause.message

/-- The id a client sent, or the failure that says it is none. -/
def clientId (data : String) : Except ResolveError ObjectId :=
  match ObjectId.ofClient? data with
  | some id => .ok id
  | none => .error (.invalidId data)

/-- The result of a store operation as the result of a request. -/
def ofStore {α : Type} : Except StoreError α → Except ResolveError α
  | .ok a => .ok a
  | .error e => .error (.storage e)

end ClassApi

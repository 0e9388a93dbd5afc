import ClassApi.Codec.Bytes
import ClassApi.Document.Extended
import ClassApi.Document.Query
import ClassApi.Document.Sort
import ClassApi.Document.Update
import ClassApi.Text.Letter

/-!
# The store

A store keeps one list of documents for every class, in the order in which they were written, and a
list of files. Class names are compared without regard to case. The store also knows the time it
stamps on what is written, and which ids it has given out: an id is made of a seed and of a counter,
so no two are the same while the counter lasts.
-/

namespace ClassApi

/-- What is known about a stored file. -/
structure FileInfo where
  /-- The id. -/
  id : ObjectId
  /-- The name. -/
  filename : String
  /-- The content type, when it is known. -/
  contentType : Option String
  /-- The length in bytes. -/
  length : Int
  /-- When it was stored. -/
  createdAt : Timestamp
  /-- When it was last changed. -/
  updatedAt : Timestamp
deriving DecidableEq

/-- The id made of a seed of nine bytes and a counter of three. -/
def ObjectId.ofCounter (seed counter : Nat) : ObjectId :=
  ⟨bigEndianBytes 9 seed ++ bigEndianBytes 3 counter, by simp [bigEndianBytes_length]⟩

/-- Documents by class, and files. -/
structure Store where
  /-- The documents of every class, under the lowercase form of its name. -/
  collections : Fields (List Document)
  /-- The files. -/
  files : List FileInfo
  /-- The seed of the ids the store gives out. -/
  seed : Nat
  /-- How many ids were given out. -/
  drawn : Nat
  /-- The time stamped on what is written. -/
  clock : Timestamp

namespace Store

/-- A store without documents and files. -/
def empty (seed : Nat) (clock : Timestamp) : Store where
  collections := []
  files := []
  seed := seed
  drawn := 0
  clock := clock

/-- The documents of a class, in the order in which they were written. -/
def documents (s : Store) (className : String) : List Document :=
  (Fields.get? s.collections (lowerText className)).getD []

/-- Replaces the documents of a class. -/
def withDocuments (s : Store) (className : String) (docs : List Document) : Store :=
  { s with collections := Fields.insert s.collections (lowerText className) docs }

/-- Gives out an id. -/
def drawId (s : Store) : ObjectId × Store :=
  (ObjectId.ofCounter s.seed (s.drawn + 1), { s with drawn := s.drawn + 1 })

/-- The members every record carries, with the values they have unless others are given. -/
def recordDefaults (clock : Timestamp) : List (String × Value) :=
  [("data", .document []), ("_classVersion", .int64 0), ("_deleted", .bool false),
    ("createdAt", .date clock), ("updatedAt", .date clock)]

/-- Adds the members every record carries, the id first. -/
def complete (s : Store) (doc : Document) : Document × Store :=
  if Fields.contains doc "_id" then (Fields.addMissing doc (recordDefaults s.clock), s)
  else
    let (id, s) := s.drawId
    (Fields.addMissing (Fields.insert doc "_id" (.objectId id)) (recordDefaults s.clock), s)

/-- Appends a document to those of a class and gives it back as stored. -/
def create (s : Store) (className : String) (doc : Document) : Document × Store :=
  let (doc, s) := s.complete doc
  (doc, s.withDocuments className (s.documents className ++ [doc]))

/-- The documents that a query selects, in order. -/
def selectAll (query : Document) : List Document → Except StoreError (List Document)
  | [] => .ok []
  | doc :: rest =>
    match Query.selects doc query with
    | .error e => .error e
    | .ok true => (selectAll query rest).map (doc :: ·)
    | .ok false => selectAll query rest

/-- The first document that a query selects. -/
def selectFirst (query : Document) : List Document → Except StoreError (Option Document)
  | [] => .ok none
  | doc :: rest =>
    match Query.selects doc query with
    | .error e => .error e
    | .ok true => .ok (some doc)
    | .ok false => selectFirst query rest

/-- The documents of a class that a query selects, sorted and projected when asked for. -/
def find (s : Store) (className : String) (query : Document) (sort projection : Option Document) :
    Except StoreError (List Document) := do
  let found ← selectAll query (s.documents className)
  let sorted :=
    match sort with
    | some keys => Sorting.sort keys found
    | none => found
  return match projection with
    | some projection => sorted.map (Projection.apply projection)
    | none => sorted

/-- The first document of a class that a query selects. -/
def findOne (s : Store) (className : String)
    (query : Document) : Except StoreError (Option Document) :=
  selectFirst query (s.documents className)

/-- Updates the first document that a query selects, and stamps it. The result is the new list, and
the document before and after, if there was one. When the update fails, what it did to the document
before stays. -/
def updateFirst (query update : Document) (clock : Timestamp) :
    List Document → List Document × Except StoreError (Option (Document × Document))
  | [] => ([], .ok none)
  | doc :: rest =>
    match Query.selects doc query with
    | .error e => (doc :: rest, .error e)
    | .ok false =>
      let (rest, result) := updateFirst query update clock rest
      (doc :: rest, result)
    | .ok true =>
      match Update.apply doc update with
      | (changed, some e) => (changed :: rest, .error e)
      | (changed, none) =>
        let stamped := Fields.insert changed "updatedAt" (.date clock)
        (stamped :: rest, .ok (some (doc, stamped)))

/-- Updates the first document of a class that a query selects; the result is the number of
documents updated. -/
def update (s : Store) (className : String)
    (query update : Document) : Except StoreError Nat × Store :=
  let (docs, result) := updateFirst query update s.clock (s.documents className)
  (result.map fun found => if found.isSome then 1 else 0, s.withDocuments className docs)

/-- Writes a new document with the equality conditions of a query and an update. -/
def insertNew (s : Store) (className : String)
    (query update : Document) : Except StoreError Document × Store :=
  match Update.apply (Query.equalities query) update with
  | (_, some e) => (.error e, s)
  | (doc, none) =>
    let (doc, s) := s.create className doc
    (.ok doc, s)

/-- Updates the first document of a class that a query selects and gives it back, as it was before
or, with `new`, as it is after. When there is none, `upsert` writes a new one, which only `new`
gives back. -/
def findOneAndUpdate (s : Store) (className : String) (query update : Document)
    (new upsert : Bool) : Except StoreError (Option Document) × Store :=
  let (docs, result) := updateFirst query update s.clock (s.documents className)
  let updated := s.withDocuments className docs
  match result with
  | .error e => (.error e, updated)
  | .ok (some (before, after)) => (.ok (some (if new then after else before)), updated)
  | .ok none =>
    if upsert then
      let (result, s) := s.insertNew className query update
      (result.map fun doc => if new then some doc else none, s)
    else (.ok none, s)

/-- The document of a class with an id. -/
def get? (s : Store) (className : String) (id : ObjectId) : Option Document :=
  (s.documents className).find? fun doc => (Fields.get? doc "_id").bind Value.asObjectId? = some id

/-- Stores what is known about a file. -/
def insertFile (s : Store) (file : FileInfo) : Store :=
  { s with files := s.files ++ [file] }

/-- Registers a file under a new id. -/
def addFile (s : Store) (filename : String) (contentType : Option String)
    (length : Int) : FileInfo × Store :=
  let (id, s) := s.drawId
  let file : FileInfo :=
    { id, filename, contentType, length, createdAt := s.clock, updatedAt := s.clock }
  (file, s.insertFile file)

/-- The file with an id. -/
def file? (s : Store) (id : ObjectId) : Option FileInfo :=
  s.files.find? fun file => file.id = id

/-- The selector of the record with an id. -/
def byId (id : ObjectId) : Document :=
  [("_id", .objectId id)]

end Store

end ClassApi

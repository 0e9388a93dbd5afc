import ClassApi.Access.Mutation

/-!
# What fields do

Every field of a compiled schema carries a resolver, which says where its value comes from: from the
store, from the arguments, or from the object the field belongs to. Resolvers are plain data. What
they do is defined where requests are executed.
-/

namespace ClassApi

/-- What every record shows besides its declared fields. -/
inductive RecordMember where
  /-- The id shown to clients. -/
  | id
  /-- The storage id. -/
  | storageId
  /-- When the record was created. -/
  | createdAt
  /-- When the record was last written. -/
  | updatedAt
  /-- The name of the class. -/
  | className
  /-- The version of the classes at the last write. -/
  | classVersion
deriving DecidableEq, Repr

/-- What a file shows. -/
inductive FileMember where
  /-- The id shown to clients. -/
  | id
  /-- The storage id. -/
  | storageId
  /-- The name. -/
  | filename
  /-- The content type. -/
  | contentType
  /-- The length in bytes. -/
  | length
  /-- When the file was stored. -/
  | createdAt
  /-- When the file was last changed. -/
  | updatedAt
deriving DecidableEq, Repr

/-- What a page of a list shows. -/
inductive ConnectionMember where
  /-- The description of the page. -/
  | pageInfo
  /-- The items. -/
  | edges
  /-- The length of the whole list. -/
  | totalCount
deriving DecidableEq, Repr

/-- What the description of a page shows. -/
inductive PageInfoMember where
  /-- Whether items follow. -/
  | hasNextPage
  /-- Whether items come before. -/
  | hasPreviousPage
  /-- The first cursor. -/
  | startCursor
  /-- The last cursor. -/
  | endCursor
deriving DecidableEq, Repr

/-- What the result of a mutation shows, its list aside. -/
inductive PayloadMember where
  /-- The mark the client gave. -/
  | clientMutationId
  /-- The record as it is now. -/
  | record
  /-- The id of the record that was removed. -/
  | removedId
deriving DecidableEq, Repr

/-- What a project shows. -/
inductive ProjectMember where
  /-- The id shown to clients. -/
  | id
  /-- The id as it is. -/
  | storageId
  /-- The name. -/
  | name
  /-- The shorter name. -/
  | shortName
  /-- The name that no other project has. -/
  | uniqueName
  /-- The schema hash. -/
  | hash
  /-- The classes. -/
  | classes
deriving DecidableEq, Repr

/-- What the classes of a project show. -/
inductive ProjectClassesMember where
  /-- The version. -/
  | version
  /-- The definitions. -/
  | definitions
deriving DecidableEq, Repr

/-- Where the value of a field comes from. -/
inductive Resolver where
  /-- The page of a class that the arguments select. -/
  | page (c : ClassInfo)
  /-- The object of a class that the arguments select. -/
  | single (c : ClassInfo)
  /-- The stored data of an object of a class. -/
  | raw (c : ClassInfo)
  /-- The object of any class, or the file, with a global id. -/
  | node (registry : Registry)
  /-- The file with an id. -/
  | file
  /-- The project of the request. -/
  | project
  /-- The result of a mutation. -/
  | mutation (kind : MutationKind) (c : ClassInfo) (version : Int)
  /-- A declared field as it is stored. -/
  | stored (name : String)
  /-- The object a declared field refers to. -/
  | relation (name target : String)
  /-- A page of the objects a declared field refers to. -/
  | relationPage (name : String)
  /-- A part of the record. -/
  | ofRecord (member : RecordMember)
  /-- A part of the file. -/
  | ofFile (member : FileMember)
  /-- A part of the page. -/
  | ofConnection (member : ConnectionMember)
  /-- A part of the description of the page. -/
  | ofPageInfo (member : PageInfoMember)
  /-- The object of an edge, which is of some class. -/
  | edgeNode (target : String)
  /-- The cursor of an edge. -/
  | edgeCursor
  /-- A part of the result of a mutation. -/
  | ofPayload (member : PayloadMember)
  /-- A part of the project. -/
  | ofProject (member : ProjectMember)
  /-- A part of the classes of the project. -/
  | ofProjectClasses (member : ProjectClassesMember)

end ClassApi

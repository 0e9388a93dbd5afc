import ClassApi.Access.Mutation
import ClassApi.Project

/-!
# Values of fields

A field has a value of the query language, an object that its own fields are read from, or a list of
such objects. Behind an interface an object comes with the name of its type.
-/

namespace ClassApi

/-- What the fields of an object are read from. -/
inductive Source where
  /-- Nothing: the roots of a schema. -/
  | root
  /-- A record of a class. -/
  | record (record : ClassRecord)
  /-- A stored file. -/
  | file (file : FileInfo)
  /-- A page of a list. -/
  | connection (page : Connection EdgeNode)
  /-- An item of a page. -/
  | edge (edge : Edge EdgeNode)
  /-- The description of a page. -/
  | pageInfo (info : PageInfo)
  /-- The result of a mutation. -/
  | payload (payload : MutationPayload)
  /-- The project. -/
  | project (project : Project)
  /-- The classes of the project. -/
  | projectClasses (classes : ProjectClasses)

namespace Source

/-- A node as an object. -/
def ofNode : Node → Source
  | .ofClass r => .record r
  | .ofFile f => .file f

/-- The record that fields of an object of a class are read from. -/
def asRecord : Source → Except ResolveError ClassRecord
  | record r => .ok r
  | _ => .error (.unexpectedParent .classRecord)

/-- The file that fields are read from. -/
def asFile : Source → Except ResolveError FileInfo
  | file f => .ok f
  | _ => .error (.unexpectedParent .file)

/-- The page that fields are read from. -/
def asConnection : Source → Except ResolveError (Connection EdgeNode)
  | connection c => .ok c
  | _ => .error (.unexpectedParent .connection)

/-- The edge that fields are read from. -/
def asEdge : Source → Except ResolveError (Edge EdgeNode)
  | edge e => .ok e
  | _ => .error (.unexpectedParent .edge)

/-- The description of a page that fields are read from. -/
def asPageInfo : Source → Except ResolveError PageInfo
  | pageInfo i => .ok i
  | _ => .error (.unexpectedParent .pageInfo)

/-- The result of a mutation that fields are read from. -/
def asPayload : Source → Except ResolveError MutationPayload
  | payload p => .ok p
  | _ => .error (.unexpectedParent .payload)

/-- The project that fields are read from. -/
def asProject : Source → Except ResolveError Project
  | project p => .ok p
  | _ => .error (.unexpectedParent .project)

/-- The classes of a project that fields are read from. -/
def asProjectClasses : Source → Except ResolveError ProjectClasses
  | projectClasses c => .ok c
  | _ => .error (.unexpectedParent .projectClasses)

end Source

/-- The value of a field. -/
inductive FieldValue where
  /-- A value of the query language. -/
  | datum (value : Datum)
  /-- An object. -/
  | object (source : Source)
  /-- An object with the name of its type. -/
  | typed (typeName : String) (source : Source)
  /-- A list of objects. -/
  | objects (sources : List Source)

namespace FieldValue

/-- A text. -/
def text (s : String) : FieldValue :=
  datum (.string s)

/-- An integer. -/
def int (n : Int) : FieldValue :=
  datum (.int n)

/-- A truth value. -/
def bool (b : Bool) : FieldValue :=
  datum (.bool b)

/-- A node behind an interface. -/
def ofNode (node : Node) : FieldValue :=
  typed node.typeName (.ofNode node)

end FieldValue

end ClassApi

import ClassApi.Datum
import ClassApi.Schema.TypeRef

/-!
# Requests as trees

The query language: a request text holds operations, of which one is executed, and fragments, which
operations include by name. Values may refer to the variables of their operation.
-/

namespace ClassApi

/-- A value as it is written in a request. -/
inductive Literal where
  /-- A variable. -/
  | ofVariable (name : String)
  /-- The absent value. -/
  | null
  /-- A number. -/
  | number (value : Numeral)
  /-- A text. -/
  | string (value : String)
  /-- A truth value. -/
  | bool (value : Bool)
  /-- A member of an enumeration. -/
  | enum (name : String)
  /-- A list. -/
  | list (items : List Literal)
  /-- Named values; a repeated name keeps its first place and its last value. -/
  | object (members : List (String × Literal))
deriving Inhabited

namespace Literal

mutual

/-- The value of a literal, given the values of variables; `none` when a variable has no value. -/
def value? (valueOf : String → Option Datum) : Literal → Option Datum
  | ofVariable name => valueOf name
  | null => some .null
  | number n => some (.number n)
  | string s => some (.string s)
  | bool b => some (.bool b)
  | enum name => some (.enum name)
  | list items => (values? valueOf items).map .list
  | object members => (memberValues? valueOf members).map .object

/-- The values of list items. -/
def values? (valueOf : String → Option Datum) : List Literal → Option (List Datum)
  | [] => some []
  | item :: rest => do
    let value ← value? valueOf item
    let values ← values? valueOf rest
    return value :: values

/-- The values of members. -/
def memberValues? (valueOf : String → Option Datum) :
    List (String × Literal) → Option (List (String × Datum))
  | [] => some []
  | (name, item) :: rest => do
    let value ← value? valueOf item
    let values ← memberValues? valueOf rest
    return (name, value) :: values

end

mutual

/-- The variables a literal refers to, in order. -/
def variableNames : Literal → List String
  | ofVariable name => [name]
  | list items => itemVariableNames items
  | object members => memberVariableNames members
  | _ => []

/-- The variables list items refer to. -/
def itemVariableNames : List Literal → List String
  | [] => []
  | item :: rest => variableNames item ++ itemVariableNames rest

/-- The variables members refer to. -/
def memberVariableNames : List (String × Literal) → List String
  | [] => []
  | (_, item) :: rest => variableNames item ++ memberVariableNames rest

end

mutual

/-- Equality of literals; members of objects are matched by name. -/
def same : Literal → Literal → Bool
  | ofVariable a, ofVariable b => a == b
  | null, null => true
  | number a, number b => a == b
  | string a, string b => a == b
  | bool a, bool b => a == b
  | enum a, enum b => a == b
  | list xs, list ys => sameItems xs ys
  | object xs, object ys => xs.length == ys.length && sameMembers xs ys
  | _, _ => false

/-- Equality of lists. -/
def sameItems : List Literal → List Literal → Bool
  | [], [] => true
  | x :: xs, y :: ys => same x y && sameItems xs ys
  | _, _ => false

/-- Whether every member has an equal one of its name in the other object. -/
def sameMembers : List (String × Literal) → Fields Literal → Bool
  | [], _ => true
  | (name, value) :: rest, other =>
    match Fields.get? other name with
    | some found => same value found && sameMembers rest other
    | none => false

end

end Literal

/-- A directive with its arguments. -/
structure Directive where
  /-- The name. -/
  name : String
  /-- The arguments in order. -/
  arguments : List (String × Literal)

/-- What a request selects of an object. -/
inductive Selection where
  /-- A field, perhaps under another name, with arguments and selections of its own. -/
  | field (label : Option String) (name : String) (arguments : List (String × Literal))
      (directives : List Directive) (selections : List Selection)
  /-- The selections of a fragment. -/
  | spread (fragment : String) (directives : List Directive)
  /-- Selections that apply to objects of a type, or to every object. -/
  | inline (condition : Option String) (directives : List Directive) (selections : List Selection)
deriving Inhabited

/-- The directives of a selection. -/
def Selection.directives : Selection → List Directive
  | field _ _ _ directives _ => directives
  | spread _ directives => directives
  | inline _ directives _ => directives

/-- The kinds of operations. -/
inductive OperationKind where
  /-- Reading. -/
  | query
  /-- Writing. -/
  | mutation
  /-- Subscribing to events. -/
  | subscription
deriving DecidableEq, Repr

/-- A variable of an operation. -/
structure VariableDefinition where
  /-- The name. -/
  name : String
  /-- The type. -/
  type : TypeRef
  /-- The value it has unless one is given. -/
  default : Option Datum
  /-- Directives. -/
  directives : List Directive

/-- An operation. -/
structure Operation where
  /-- The kind. -/
  kind : OperationKind
  /-- The name, if it has one. -/
  name : Option String
  /-- The variables. -/
  variableDefinitions : List VariableDefinition
  /-- Directives. -/
  directives : List Directive
  /-- What is selected of the root object. -/
  selections : List Selection

/-- A fragment. -/
structure Fragment where
  /-- The name. -/
  name : String
  /-- The type it applies to. -/
  condition : String
  /-- Directives. -/
  directives : List Directive
  /-- What it selects. -/
  selections : List Selection

/-- The operations and fragments of a request text. -/
structure RequestTree where
  /-- The operations in order. -/
  operations : List Operation
  /-- The fragments in order. -/
  fragments : List Fragment

/-- The fragment with a name. -/
def RequestTree.fragment? (tree : RequestTree) (name : String) : Option Fragment :=
  tree.fragments.find? fun f => f.name = name

end ClassApi

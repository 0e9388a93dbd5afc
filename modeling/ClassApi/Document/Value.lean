import ClassApi.Fields
import ClassApi.Ident
import ClassApi.Number.Decimal
import ClassApi.Timestamp

/-!
# Stored values

What documents are made of. Besides the kinds JSON has, a store keeps two widths of integers, ids,
dates, binary data, regular expressions and a few kinds that only other programs write. Decimals are
among these: they are kept and shown, but not reckoned with, so nothing treats them as numbers.
-/

namespace ClassApi

/-- A stored value. Documents keep their members in order and repeat no name. -/
inductive Value where
  /-- The absent value. -/
  | null
  /-- A value another program left undefined. -/
  | undefined
  /-- A truth value. -/
  | bool (value : Bool)
  /-- An integer of 32 bits. -/
  | int32 (value : Int)
  /-- An integer of 64 bits. -/
  | int64 (value : Int)
  /-- A float. -/
  | double (value : Float)
  /-- A decimal of 128 bits. -/
  | decimal128 (value : Decimal128)
  /-- A text. -/
  | string (value : String)
  /-- The id of a record or file. -/
  | objectId (value : ObjectId)
  /-- A moment. -/
  | date (value : Timestamp)
  /-- A reference of an old kind: the name of a collection and an id. -/
  | dbPointer (collection : String) (id : ObjectId)
  /-- Bytes with a kind number. -/
  | binary (kind : UInt8) (bytes : List UInt8)
  /-- A regular expression: its pattern and its option letters. -/
  | regex (pattern options : String)
  /-- A text of another program's symbol kind. -/
  | symbol (value : String)
  /-- Program text. -/
  | code (value : String)
  /-- Program text with the variables it may use. -/
  | codeWithScope (value : String) (scope : List (String × Value))
  /-- A moment of a replication log: seconds and a counter. -/
  | logTime (seconds counter : Nat)
  /-- The value below all others. -/
  | minKey
  /-- The value above all others. -/
  | maxKey
  /-- A list of values. -/
  | array (items : List Value)
  /-- Named members. -/
  | document (members : List (String × Value))
deriving Inhabited

/-- A document: the named values of a record, a query, an update. -/
abbrev Document := Fields Value

namespace Value

/-- The number a value stands for, as a float. -/
def asFloat? : Value → Option Float
  | int32 n => some (Float.ofInt n)
  | int64 n => some (Float.ofInt n)
  | double x => some x
  | _ => none

/-- The text, when the value is one. -/
def asString? : Value → Option String
  | string s => some s
  | _ => none

/-- The members, when the value is a document. -/
def asDocument? : Value → Option Document
  | document members => some members
  | _ => none

/-- The id, when the value is one. -/
def asObjectId? : Value → Option ObjectId
  | objectId id => some id
  | _ => none

/-- Whether a value counts as true: numbers unless they are zero, everything but `null` and
`false`. -/
def truthy : Value → Bool
  | bool b => b
  | null => false
  | value =>
    match value.asFloat? with
    | some x => x != 0
    | none => true

end Value

end ClassApi

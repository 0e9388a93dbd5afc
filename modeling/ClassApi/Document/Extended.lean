import ClassApi.Document.Value
import ClassApi.Json.Basic
import ClassApi.Number.Reading

/-!
# Extended JSON

Stored values written as JSON. A value JSON has no kind for is an object with a member whose name
begins with a dollar sign, and nothing else. Reading fails as a whole when such an object is
malformed. The order in which the marks are looked for matters only for objects that carry two of
them.
-/

namespace ClassApi

namespace Extended

/-- The marks of extended kinds, in the order in which an object is searched for them. -/
inductive Mark where
  /-- An id. -/
  | oid
  /-- A symbol. -/
  | symbol
  /-- A regular expression. -/
  | regularExpression
  /-- A 32-bit integer. -/
  | numberInt
  /-- A 64-bit integer. -/
  | numberLong
  /-- A float. -/
  | numberDouble
  /-- A decimal. -/
  | numberDecimal
  /-- Binary data. -/
  | binary
  /-- Binary data given as a universally unique id. -/
  | uuid
  /-- Program text. -/
  | code
  /-- A replication log time. -/
  | timestamp
  /-- A date. -/
  | date
  /-- The least value. -/
  | minKey
  /-- The greatest value. -/
  | maxKey
  /-- A reference with the name of its collection. -/
  | dbPointer
  /-- The undefined value. -/
  | undefined
deriving DecidableEq, Repr

namespace Mark

/-- The member name of a mark. -/
def name : Mark → String
  | oid => "$oid"
  | symbol => "$symbol"
  | regularExpression => "$regularExpression"
  | numberInt => "$numberInt"
  | numberLong => "$numberLong"
  | numberDouble => "$numberDouble"
  | numberDecimal => "$numberDecimal"
  | binary => "$binary"
  | uuid => "$uuid"
  | code => "$code"
  | timestamp => "$timestamp"
  | date => "$date"
  | minKey => "$minKey"
  | maxKey => "$maxKey"
  | dbPointer => "$dbPointer"
  | undefined => "$undefined"

/-- All marks in search order. -/
def all : List Mark :=
  [oid, symbol, regularExpression, numberInt, numberLong, numberDouble, numberDecimal, binary,
    uuid, code, timestamp, date, minKey, maxKey, dbPointer, undefined]

/-- The first mark that some object carries. -/
def find? (members : Fields Json) : Option Mark :=
  all.find? fun mark => Fields.contains members mark.name

end Mark

/-- The least 32-bit integer. -/
def int32Min : Int := -2147483648

/-- The greatest 32-bit integer. -/
def int32Max : Int := 2147483647

/-- Whether an integer fits in 32 bits with a sign. -/
def fitsInt32 (n : Int) : Bool :=
  int32Min ≤ n && n ≤ int32Max

/-- The stored form of a JSON number: the narrowest kind that holds it. -/
def ofNumeral : Numeral → Value
  | .integer n =>
    if fitsInt32 n then .int32 n
    else if fitsInt64 n then .int64 n
    else .double (Float.ofInt n)
  | .real x => .double x

/-- The single member of an object that has no other. -/
def only (members : Fields Json) : Option Json :=
  match members with
  | [(_, value)] => some value
  | _ => none

/-- The values of a record with exactly the given member names, given by name or by position. -/
def record (names : List String) : Json → Option (List Json)
  | .object members =>
    if members.length = names.length then names.mapM (Fields.get? members) else none
  | .array items => if items.length = names.length then some items else none
  | _ => none

/-- Sorts the option letters of a regular expression. -/
def sortOptions (options : String) : String :=
  String.ofList (options.toList.mergeSort fun a b => a ≤ b)

/-- A natural of 32 bits. -/
def word32? : Json → Option Nat
  | .number (.integer n) => if 0 ≤ n ∧ n ≤ 4294967295 then some n.toNat else none
  | _ => none

/-- An integer given as text. -/
def intText? (low high : Int) : Json → Option Int
  | .string s => Cursor.readInt low high s.toList
  | _ => none

/-- A 64-bit integer given as text under its mark, or as the only item of a list. -/
def longRecord? (json : Json) : Option Int :=
  match record ["$numberLong"] json with
  | some [text] => intText? (-9223372036854775808) 9223372036854775807 text
  | _ => none

/-- A date: milliseconds marked as a 64-bit integer, a text, or plain milliseconds. -/
def date? : Json → Option Timestamp
  | .string s => Timestamp.read s
  | .number n => n.toInt?.map Timestamp.mk
  | json => (longRecord? json).map Timestamp.mk

/-- Bytes in Base64 with a kind given as two hexadecimal digits. -/
def binary? (json : Json) : Option Value :=
  match record ["base64", "subType"] json with
  | some [.string text, .string kind] => do
    let bytes ← Base64.decodeBytes text
    match ← Hex.decode kind with
    | [kind] => some (.binary kind bytes)
    | _ => none
  | _ => none

/-- A reference: the name of a collection and an id with its mark. -/
def pointer? (json : Json) : Option Value :=
  match record ["$ref", "$id"] json with
  | some [.string collection, id] =>
    match record ["$oid"] id with
    | some [.string digits] => (ObjectId.ofHex? digits).map (.dbPointer collection)
    | _ => none
  | _ => none

/-- The hexadecimal digits of a universally unique id, without the decoration it may wear: braces or
a prefix around five groups joined by hyphens, or no decoration at all. -/
def uuidDigits (text : String) : Option (List Char) :=
  let grouped := fun (cs : List Char) =>
    if cs.length = 36 ∧ [8, 13, 18, 23].all (fun i => cs[i]? = some '-') then
      some (cs.take 8 ++ (cs.drop 9).take 4 ++ (cs.drop 14).take 4 ++ (cs.drop 19).take 4 ++
        cs.drop 24)
    else none
  let cs := text.toList
  if cs.length = 32 then some cs
  else if cs.length = 38 ∧ cs.head? = some '{' ∧ cs.getLast? = some '}' then
    grouped (cs.drop 1).dropLast
  else if cs.length = 45 ∧ cs.take 9 = "urn:uuid:".toList then grouped (cs.drop 9)
  else grouped cs

/-- The sixteen bytes of a universally unique id. -/
def uuid? (text : String) : Option Value := do
  let digits ← uuidDigits text
  let bytes ← Hex.decodeChars digits
  if bytes.length = 16 then some (.binary 4 bytes) else none

/-- The value of an object with a mark; `scope` is what its scope member was read as. -/
def marked (mark : Mark) (members : Fields Json)
    (scope : Option (Option Document)) : Option Value :=
  match mark, only members with
  | .oid, some (.string s) => (ObjectId.ofHex? s).map .objectId
  | .symbol, some (.string s) => some (.symbol s)
  | .regularExpression, some body =>
    match record ["pattern", "options"] body with
    | some [.string pattern, .string options] => some (.regex pattern (sortOptions options))
    | _ => none
  | .numberInt, some text => (intText? int32Min int32Max text).map .int32
  | .numberLong, some text =>
    (intText? (-9223372036854775808) 9223372036854775807 text).map .int64
  | .numberDouble, some (.string s) => (FloatText.read s).map .double
  | .numberDecimal, some (.string s) => (Decimal128.ofText? s).map .decimal128
  | .binary, some body => binary? body
  | .uuid, some (.string s) => uuid? s
  | .code, _ =>
    match Fields.get? members "$code", scope with
    | some (.string s), some none =>
      if members.all (fun m => m.1 = "$code" || m.1 = "$scope") then some (.code s) else none
    | some (.string s), some (some inner) =>
      if members.length = 2 then some (.codeWithScope s inner) else none
    | _, _ => none
  | .timestamp, some body =>
    match record ["t", "i"] body with
    | some [t, i] => do return .logTime (← word32? t) (← word32? i)
    | _ => none
  | .date, some body => (date? body).map .date
  | .minKey, some (.number (.integer 1)) => some .minKey
  | .maxKey, some (.number (.integer 1)) => some .maxKey
  | .dbPointer, some body => pointer? body
  | .undefined, some (.bool true) => some .undefined
  | _, _ => none

mutual

/-- The stored value a JSON value stands for. -/
def ofJson : Json → Option Value
  | .null => some .null
  | .bool b => some (.bool b)
  | .number n => some (ofNumeral n)
  | .string s => some (.string s)
  | .array items => (ofItems items).map .array
  | .object members =>
    match Mark.find? members with
    | some mark => marked mark members (scopeOf members)
    | none => (ofMembers members).map .document

/-- The stored values of list items. -/
def ofItems : List Json → Option (List Value)
  | [] => some []
  | item :: rest => do
    let value ← ofJson item
    let values ← ofItems rest
    return value :: values

/-- The stored values of members. -/
def ofMembers : List (String × Json) → Option (List (String × Value))
  | [] => some []
  | (name, json) :: rest => do
    let value ← ofJson json
    let values ← ofMembers rest
    return (name, value) :: values

/-- The document in the scope member: `none` when it is malformed, `some none` when there is
none. -/
def scopeOf : List (String × Json) → Option (Option Document)
  | [] => some none
  | (name, json) :: rest =>
    if name = "$scope" then
      match json with
      | .null => some none
      | .object members => (ofMembers members).map some
      | _ => none
    else scopeOf rest

end

/-- The document a JSON object stands for, whatever its member names; `none` when the value is no
object. -/
def documentOfJson : Json → Option Document
  | .object members => ofMembers members
  | _ => none

/-- An object with one member. -/
def single (name : String) (value : Json) : Json :=
  .object [(name, value)]

mutual

/-- The canonical extended form of a stored value: every kind is named. -/
def toJson : Value → Json
  | .null => .null
  | .undefined => single "$undefined" (.bool true)
  | .bool b => .bool b
  | .int32 n => single "$numberInt" (.string (toString n))
  | .int64 n => single "$numberLong" (.string (toString n))
  | .double x => single "$numberDouble" (.string (FloatText.plain x))
  | .decimal128 d => single "$numberDecimal" (.string d.text)
  | .string s => .string s
  | .objectId id => single "$oid" (.string id.hex)
  | .date t => single "$date" (single "$numberLong" (.string (toString t.millis)))
  | .dbPointer collection id =>
    single "$dbPointer" (.object [("$ref", .string collection),
      ("$id", single "$oid" (.string id.hex))])
  | .binary kind bytes =>
    single "$binary"
      (.object [("base64", .string (Base64.encodeBytes bytes)),
        ("subType", .string (Hex.encode [kind]))])
  | .regex pattern options =>
    single "$regularExpression"
      (.object [("pattern", .string pattern), ("options", .string (sortOptions options))])
  | .symbol s => single "$symbol" (.string s)
  | .code s => single "$code" (.string s)
  | .codeWithScope s scope =>
    .object [("$code", .string s), ("$scope", .object (toMembers scope))]
  | .logTime t i => single "$timestamp" (.object [("t", .int t), ("i", .int i)])
  | .minKey => single "$minKey" (.int 1)
  | .maxKey => single "$maxKey" (.int 1)
  | .array items => .array (toItems items)
  | .document members => .object (toMembers members)

/-- The extended forms of list items. -/
def toItems : List Value → List Json
  | [] => []
  | item :: rest => toJson item :: toItems rest

/-- The extended forms of members. -/
def toMembers : List (String × Value) → List (String × Json)
  | [] => []
  | (name, value) :: rest => (name, toJson value) :: toMembers rest

end

end Extended

end ClassApi

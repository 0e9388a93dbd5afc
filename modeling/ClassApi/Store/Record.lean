import ClassApi.Document.Extended
import ClassApi.Store.Failure

/-!
# Stored records

A record is kept as a document with an id, its data and some members of the system. Reading a
document as a record reads its data as extended JSON once more: a nested document that carries the
mark of an extended kind becomes that value, and is refused when it is malformed. Members before the
mark are dropped and members behind it are ignored.
-/

namespace ClassApi

/-- A document of a store, read as a record. -/
structure StoredRecord where
  /-- The id. -/
  id : ObjectId
  /-- The values of the declared fields. -/
  data : Document
  /-- The version of the class definitions at the last write. -/
  classVersion : Int
  /-- Whether the record is marked as removed. -/
  deleted : Bool
  /-- When it was created. -/
  createdAt : Option Timestamp
  /-- When it was last written. -/
  updatedAt : Option Timestamp

namespace StoredRecord

mutual

/-- A stored value as plain JSON, as far as the payload of a mark may consist of it; an id is given
with its mark, and other kinds become `null`. -/
def plain : Value → Json
  | .bool b => .bool b
  | .int32 n => .int n
  | .int64 n => .int n
  | .string s => .string s
  | .objectId id => Extended.single Extended.Mark.oid.name (.string id.hex)
  | .array items => .array (plainItems items)
  | .document members => .object (plainMembers members)
  | _ => .null

/-- List items as plain JSON. -/
def plainItems : List Value → List Json
  | [] => []
  | item :: rest => plain item :: plainItems rest

/-- Members as plain JSON. -/
def plainMembers : List (String × Value) → List (String × Json)
  | [] => []
  | (name, value) :: rest => (name, plain value) :: plainMembers rest

end

/-- The bytes that a value gives: those of binary data without a kind of its own, of a text, or of a
list of naturals. -/
def bytesOf : Value → Option (List UInt8)
  | .binary 0 bytes => some bytes
  | .string s => some s.toUTF8.toList
  | .array items =>
    items.mapM fun
      | .int32 n | .int64 n => if 0 ≤ n ∧ n < 256 then some (UInt8.ofNat n.toNat) else none
      | _ => none
  | _ => none

/-- The marks a member name may stand for when a value is read once more, other than those of
program text. -/
inductive Mark where
  /-- The mark of an extended kind. -/
  | extended (mark : Extended.Mark)
  /-- The mark of a decimal that is given by its bytes. -/
  | decimalBytes
  /-- A mark of encoded documents and lists, which are nowhere kept. -/
  | encoded
deriving DecidableEq, Repr

/-- The mark a member name stands for. -/
def markOf (name : String) : Option Mark :=
  match name with
  | "$code" | "$uuid" => none
  | "$numberDecimalBytes" => some .decimalBytes
  | "$__private__bson_RawDocument" | "$__private__bson_RawArray" => some .encoded
  | name => (Extended.Mark.all.find? fun mark => mark.name = name).map .extended

/-- The value of the mark of an extended kind with its payload. A float is read as an integer unless
it is infinite or no number. -/
def extended (mark : Extended.Mark) (payload : Value) : Option Value :=
  match mark, payload with
  | .oid, .binary _ bytes => (ObjectId.ofBytes? bytes).map .objectId
  | .numberDouble, .string "Infinity" => some (.double (Float.ofBits 0x7FF0000000000000))
  | .numberDouble, .string "-Infinity" => some (.double (Float.ofBits 0xFFF0000000000000))
  | .numberDouble, .string "NaN" => some (.double (Float.ofBits 0x7FF8000000000000))
  | .numberDouble, payload => Extended.marked .numberLong [(mark.name, plain payload)] none
  | mark, payload => Extended.marked mark [(mark.name, plain payload)] none

/-- The value of a mark with its payload. -/
def marked (mark : Mark) (payload : Value) : Option Value :=
  match mark with
  | .extended mark => extended mark payload
  | .decimalBytes => ((bytesOf payload).bind Decimal128.ofBytes?).map .decimal128
  | .encoded => none

/-- The text of a value, when it is one. -/
def codeText : Value → Option String
  | .string s => some s
  | _ => none

mutual

/-- Reads a value once more. -/
def reread : Value → Option Value
  | .document members => rereadMembers [] members
  | .array items => (rereadItems items).map .array
  | .regex pattern options => some (.regex pattern (Extended.sortOptions options))
  | .codeWithScope code scope =>
    match rereadMembers [] scope with
    | some (.document scope) => some (.codeWithScope code scope)
    | _ => none
  | value => some value

/-- Reads list items once more. -/
def rereadItems : List Value → Option (List Value)
  | [] => some []
  | item :: rest => do
    let value ← reread item
    let values ← rereadItems rest
    return value :: values

/-- Reads members up to the first mark; `done` holds the members read so far. -/
def rereadMembers (done : Document) : List (String × Value) → Option Value
  | [] => some (.document done)
  | (name, value) :: rest =>
    if name = "$code" then
      match rest with
      | [] => (codeText value).map .code
      | (other, scope) :: _ =>
        if other = "$scope" then
          match codeText value, reread scope with
          | some code, some (.document scope) => some (.codeWithScope code scope)
          | _, _ => none
        else none
    else if name = "$scope" then
      match rest with
      | (other, code) :: _ =>
        if other = "$code" then
          match codeText code, reread value with
          | some code, some (.document scope) => some (.codeWithScope code scope)
          | _, _ => none
        else none
      | [] => none
    else
      match markOf name with
      | some mark => marked mark value
      | none =>
        match reread value with
        | some value => rereadMembers (Fields.insert done name value) rest
        | none => none

end

/-- The id member of a record. -/
def readId : Option Value → Option ObjectId
  | some (.objectId id) => some id
  | some (.string text) => ObjectId.ofHex? text
  | some (.binary 0 bytes) => ObjectId.ofBytes? bytes
  | some (.document members) => (rereadMembers [] members).bind Value.asObjectId?
  | _ => none

/-- The data member of a record; it is empty when it is missing. -/
def readData : Option Value → Option Document
  | none => some []
  | some (.document members) => (rereadMembers [] members).bind Value.asDocument?
  | some _ => none

/-- The version member of a record; it is zero when it is missing. -/
def readVersion : Option Value → Option Int
  | none => some 0
  | some (.int32 n) => some n
  | some (.int64 n) => some n
  | some _ => none

/-- The removal mark of a record; it is not set when it is missing. -/
def readDeleted : Option Value → Option Bool
  | none => some false
  | some (.bool b) => some b
  | some _ => none

/-- A time member of a record, which may be missing or `null`. -/
def readTime : Option Value → Option (Option Timestamp)
  | none => some none
  | some .null => some none
  | some value =>
    match reread value with
    | some (.date t) => some (some t)
    | _ => none

/-- Reads a document as a record. -/
def ofDocument? (doc : Document) : Option StoredRecord := do
  let id ← readId (Fields.get? doc "_id")
  let data ← readData (Fields.get? doc "data")
  let classVersion ← readVersion (Fields.get? doc "_classVersion")
  let deleted ← readDeleted (Fields.get? doc "_deleted")
  let createdAt ← readTime (Fields.get? doc "createdAt")
  let updatedAt ← readTime (Fields.get? doc "updatedAt")
  return { id, data, classVersion, deleted, createdAt, updatedAt }

/-- Reads a document as a record, or fails. -/
def ofDocument (doc : Document) : Except StoreError StoredRecord :=
  match ofDocument? doc with
  | some record => .ok record
  | none => .error .invalidRecord

end StoredRecord

end ClassApi

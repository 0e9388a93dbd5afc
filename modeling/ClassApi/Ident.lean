import ClassApi.Codec.Base64
import ClassApi.Codec.Hex

/-!
# Identifiers

Records are stored under twelve-byte ids. Clients see opaque global ids, which name a type and a raw
id; lists are paged by cursors, which hold an offset. Whatever accepts an id from a client accepts
the raw form and the global form.
-/

namespace ClassApi

/-- A twelve-byte storage id. -/
structure ObjectId where
  /-- The bytes. -/
  bytes : List UInt8
  /-- There are twelve of them. -/
  length_eq : bytes.length = 12
deriving DecidableEq

namespace ObjectId

/-- The id with the given bytes, when there are twelve. -/
def ofBytes? (bytes : List UInt8) : Option ObjectId :=
  if h : bytes.length = 12 then some ⟨bytes, h⟩ else none

/-- The id that 24 hexadecimal digits stand for. -/
def ofHex? (text : String) : Option ObjectId := do
  ofBytes? (← Hex.decode text)

/-- The 24 hexadecimal digits of an id. -/
def hex (id : ObjectId) : String :=
  Hex.encode id.bytes

/-- Lexicographic order of byte lists. -/
def compareBytes : List UInt8 → List UInt8 → Ordering
  | [], [] => .eq
  | [], _ :: _ => .lt
  | _ :: _, [] => .gt
  | a :: as, b :: bs => if a < b then .lt else if b < a then .gt else compareBytes as bs

/-- Ids are ordered by their bytes. -/
def compare (a b : ObjectId) : Ordering :=
  compareBytes a.bytes b.bytes

/-- A raw id from a client: 24 hexadecimal digits, or a text of twelve bytes. -/
def parse? (raw : String) : Option ObjectId :=
  match ofHex? raw with
  | some id => some id
  | none => ofBytes? raw.toUTF8.toList

end ObjectId

/-- A decoded global id. -/
structure GlobalId where
  /-- The name of the type. -/
  typeName : String
  /-- The raw id. -/
  id : String
deriving DecidableEq, Repr

namespace GlobalId

/-- The opaque text of a type name and a raw id. -/
def encode (typeName id : String) : String :=
  Base64.encode (typeName ++ ":" ++ id)

/-- Splits at the first colon. -/
def splitColon : List Char → Option (List Char × List Char)
  | [] => none
  | c :: rest =>
    if c = ':' then some ([], rest)
    else (splitColon rest).map fun (before, after) => (c :: before, after)

/-- The type name and raw id behind an opaque text. -/
def decode? (text : String) : Option GlobalId := do
  let decoded ← Base64.decode text
  let (typeName, id) ← splitColon decoded.toList
  return ⟨String.ofList typeName, String.ofList id⟩

end GlobalId

/-- The id a client sent, in raw or global form: hexadecimal digits first, then a global id, then
twelve raw bytes. A text that decodes as a global id is never read as raw bytes. -/
def ObjectId.ofClient? (data : String) : Option ObjectId :=
  match ofHex? data with
  | some id => some id
  | none =>
    match GlobalId.decode? data with
    | some globalId => parse? globalId.id
    | none => parse? data

/-- The message about an id from a client that names no storage id. -/
def invalidIdMessage (data : String) : String :=
  s!"Invalid id \"{data}\""

namespace Cursor

/-- What every cursor begins with, once decoded. -/
def tag : String := "arrayconnection:"

/-- The cursor of the item at an offset. -/
def ofOffset (offset : Nat) : String :=
  Base64.encode (tag ++ toString offset)

/-- Drops a fixed text from the front. -/
def dropTag : List Char → List Char → Option (List Char)
  | [], rest => some rest
  | _ :: _, [] => none
  | t :: ts, c :: rest => if t = c then dropTag ts rest else none

/-- The natural some decimal digits stand for; there must be at least one. -/
def readNat (digits : List Char) : Option Nat :=
  if digits.isEmpty ∨ digits.any (fun c => !c.isDigit) then none
  else some (digits.foldl (fun n c => n * 10 + (c.toNat - 48)) 0)

/-- The integer a text stands for, with an optional sign, within `low` and `high`. -/
def readInt (low high : Int) (text : List Char) : Option Int := do
  let value : Int ←
    match text with
    | '-' :: digits => (readNat digits).map fun n => -(n : Int)
    | '+' :: digits => (readNat digits).map fun n => (n : Int)
    | digits => (readNat digits).map fun n => (n : Int)
  if low ≤ value ∧ value ≤ high then some value else none

/-- The offset a cursor stands for; `none` when it is not a cursor. -/
def offset? (cursor : String) : Option Int := do
  let decoded ← Base64.decode cursor
  let rest ← dropTag tag.toList decoded.toList
  readInt (-9223372036854775808) 9223372036854775807 rest

end Cursor

end ClassApi

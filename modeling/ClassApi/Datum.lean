import ClassApi.Document.Extended
import ClassApi.Json.Reader
import ClassApi.Json.Writer
import ClassApi.Text.Letter

/-!
# Query values

The values of the query language: what arguments carry and what responses are made of, together with
their conversions to and from stored values and JSON. Storing a value and reading it back gives the
same value, except that enum members come back as texts and floats that are no numbers as nothing.
-/

namespace ClassApi

/-- A value of the query language. -/
inductive Datum where
  /-- The absent value. -/
  | null
  /-- A number. -/
  | number (value : Numeral)
  /-- A text. -/
  | string (value : String)
  /-- A truth value. -/
  | bool (value : Bool)
  /-- Bytes. -/
  | binary (bytes : List UInt8)
  /-- A member of an enumeration. -/
  | enum (name : String)
  /-- A list. -/
  | list (items : List Datum)
  /-- Named values in order. -/
  | object (members : List (String × Datum))
deriving Inhabited

namespace Datum

/-- An integer. -/
def int (n : Int) : Datum :=
  number (.integer n)

/-- The integer, when the value is one that fits in 64 bits with a sign. -/
def asInt? : Datum → Option Int
  | number n => n.toInt?
  | _ => none

/-- The text, when the value is one. -/
def asString? : Datum → Option String
  | string s => some s
  | _ => none

/-- The items, when the value is a list. -/
def asList? : Datum → Option (List Datum)
  | list items => some items
  | _ => none

/-- The members, when the value is an object. -/
def asObject? : Datum → Option (Fields Datum)
  | object members => some members
  | _ => none

/-- Whether the value is `null`. -/
def isNull : Datum → Bool
  | null => true
  | _ => false

mutual

/-- The value as it is stored: integers as 64-bit integers, enum members as texts. -/
def toStored : Datum → Value
  | null => .null
  | number n =>
    match n.toInt? with
    | some i => .int64 i
    | none => .double n.toFloat
  | string s => .string s
  | bool b => .bool b
  | binary bytes => .binary 0 bytes
  | enum name => .string name
  | list items => .array (toStoredItems items)
  | object members => .document (toStoredMembers members)

/-- List items as they are stored. -/
def toStoredItems : List Datum → List Value
  | [] => []
  | item :: rest => toStored item :: toStoredItems rest

/-- Members as they are stored. -/
def toStoredMembers : List (String × Datum) → List (String × Value)
  | [] => []
  | (name, value) :: rest => (name, toStored value) :: toStoredMembers rest

end

/-- Whether a text, white space aside, begins like a JSON object or list. -/
def looksStructured (text : String) : Bool :=
  match text.toList.dropWhile isWhiteSpace with
  | '{' :: _ => true
  | '[' :: _ => true
  | _ => false

/-- The stored form of input to a field of any type: a text that holds a JSON object or list is
read. -/
def toStoredMixed (value : Datum) : Value :=
  match value with
  | string raw =>
    if looksStructured raw then ((Json.read raw).bind Extended.ofJson).getD (.string raw)
    else .string raw
  | value => toStored value

mutual

/-- A JSON value as a query value. -/
def ofJson : Json → Datum
  | .null => null
  | .bool b => bool b
  | .number n => number n
  | .string s => string s
  | .array items => list (ofJsonItems items)
  | .object members => object (ofJsonMembers members)

/-- JSON list items as query values. -/
def ofJsonItems : List Json → List Datum
  | [] => []
  | item :: rest => ofJson item :: ofJsonItems rest

/-- JSON members as query values. -/
def ofJsonMembers : List (String × Json) → List (String × Datum)
  | [] => []
  | (name, value) :: rest => (name, ofJson value) :: ofJsonMembers rest

end

mutual

/-- The JSON of a query value: enum members become texts, bytes lists of numbers. -/
def toJson : Datum → Json
  | null => .null
  | number n => .number n
  | string s => .string s
  | bool b => .bool b
  | binary bytes => .array (bytes.map fun b => .int b.toNat)
  | enum name => .string name
  | list items => .array (toJsonItems items)
  | object members => .object (toJsonMembers members)

/-- The JSON of list items. -/
def toJsonItems : List Datum → List Json
  | [] => []
  | item :: rest => toJson item :: toJsonItems rest

/-- The JSON of members. -/
def toJsonMembers : List (String × Datum) → List (String × Json)
  | [] => []
  | (name, value) :: rest => (name, toJson value) :: toJsonMembers rest

end

/-- Whether a character is a control character. -/
def isControl (c : Char) : Bool :=
  c.toNat < 32 || (127 ≤ c.toNat && c.toNat < 160)

/-- The characters that stand for one character inside a quoted literal. -/
def escapeChar (c : Char) : List Char :=
  match c with
  | '\r' => ['\\', 'r']
  | '\n' => ['\\', 'n']
  | '\t' => ['\\', 't']
  | '"' => ['\\', '"']
  | '\\' => ['\\', '\\']
  | c =>
    if isControl c then '\\' :: 'u' :: (Timestamp.padded 4 c.toNat).toList else [c]

mutual

/-- The value as a literal of the query language. -/
def literal : Datum → String
  | null => "null"
  | number n => n.text
  | string s => String.ofList ('"' :: s.toList.flatMap escapeChar ++ ['"'])
  | bool b => if b then "true" else "false"
  | binary bytes => "[" ++ ", ".intercalate (bytes.map fun b => toString b.toNat) ++ "]"
  | enum name => name
  | list items => "[" ++ ", ".intercalate (literalItems items) ++ "]"
  | object members => "\x7b" ++ ", ".intercalate (literalMembers members) ++ "\x7d"

/-- The literals of list items. -/
def literalItems : List Datum → List String
  | [] => []
  | item :: rest => literal item :: literalItems rest

/-- The literals of members, each with its name. -/
def literalMembers : List (String × Datum) → List String
  | [] => []
  | (name, value) :: rest => (name ++ ": " ++ literal value) :: literalMembers rest

end

mutual

/-- Equality of query values; members of objects are matched by name. -/
def same : Datum → Datum → Bool
  | null, null => true
  | number a, number b => a == b
  | string a, string b => a == b
  | bool a, bool b => a == b
  | binary a, binary b => a == b
  | enum a, enum b => a == b
  | list xs, list ys => sameItems xs ys
  | object xs, object ys => xs.length == ys.length && sameMembers xs ys
  | _, _ => false

/-- Equality of lists. -/
def sameItems : List Datum → List Datum → Bool
  | [], [] => true
  | x :: xs, y :: ys => same x y && sameItems xs ys
  | _, _ => false

/-- Whether every member has an equal one of its name in the other object. -/
def sameMembers : List (String × Datum) → Fields Datum → Bool
  | [], _ => true
  | (name, value) :: rest, other =>
    match Fields.get? other name with
    | some found => same value found && sameMembers rest other
    | none => false

end

end Datum

/-- The text of a stored value of a kind that the query language has no value for. -/
def Value.describe : Value → String
  | .symbol s => s!"Symbol(\"{s}\")"
  | .decimal128 d => d.text
  | .dbPointer collection id => "DbPointer(" ++ collection ++ ", " ++ id.hex ++ ")"
  | .binary kind bytes =>
    "Binary(0x" ++ String.ofList (Nat.toDigits 16 kind.toNat) ++ ", " ++
      Base64.encodeBytes bytes ++ ")"
  | .logTime t i => s!"Timestamp({t}, {i})"
  | .minKey => "MinKey"
  | .maxKey => "MaxKey"
  | .code s => s
  | .codeWithScope s _ => s
  | _ => ""

namespace Value

mutual

/-- The stored value as clients see it. -/
def toDatum : Value → Datum
  | null => .null
  | undefined => .null
  | double x => (Numeral.ofFloat x).elim .null .number
  | int32 n => .int n
  | int64 n => .int n
  | string s => .string s
  | bool b => .bool b
  | objectId id => .string id.hex
  | date t => .string t.iso
  | array items => .list (toDatumItems items)
  | document members => .object (toDatumMembers members)
  | regex pattern options => .string ("/" ++ pattern ++ "/" ++ options)
  | other => .string other.describe

/-- List items as clients see them. -/
def toDatumItems : List Value → List Datum
  | [] => []
  | item :: rest => toDatum item :: toDatumItems rest

/-- Members as clients see them. -/
def toDatumMembers : List (String × Value) → List (String × Datum)
  | [] => []
  | (name, value) :: rest => (name, toDatum value) :: toDatumMembers rest

end

end Value

end ClassApi

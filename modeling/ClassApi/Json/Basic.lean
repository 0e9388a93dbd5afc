import ClassApi.Fields
import ClassApi.Number.Numeral

/-!
# JSON

JSON values with ordered members. Texts of definitions, fixtures, variables and responses are JSON.
-/

namespace ClassApi

/-- A JSON value. Objects keep their members in order and repeat no name. -/
inductive Json where
  /-- The value `null`. -/
  | null
  /-- A truth value. -/
  | bool (value : Bool)
  /-- A number. -/
  | number (value : Numeral)
  /-- A text. -/
  | string (value : String)
  /-- A list of values. -/
  | array (items : List Json)
  /-- Named members. -/
  | object (members : List (String × Json))
deriving Inhabited

namespace Json

/-- An integer value. -/
def int (n : Int) : Json :=
  number (.integer n)

/-- The member of an object, when there is one. -/
def member? : Json → String → Option Json
  | object members, name => Fields.get? members name
  | _, _ => none

/-- The text, when the value is one. -/
def asString? : Json → Option String
  | string s => some s
  | _ => none

/-- The truth value, when the value is one. -/
def asBool? : Json → Option Bool
  | bool b => some b
  | _ => none

/-- The integer, when the value is one that fits in sixty-four bits with a sign. -/
def asInt? : Json → Option Int
  | number n => n.toInt?
  | _ => none

/-- The items, when the value is a list. -/
def asArray? : Json → Option (List Json)
  | array items => some items
  | _ => none

/-- The members, when the value is an object. -/
def asObject? : Json → Option (Fields Json)
  | object members => some members
  | _ => none

/-- Whether the value is `null`. -/
def isNull : Json → Bool
  | null => true
  | _ => false

end Json

end ClassApi
